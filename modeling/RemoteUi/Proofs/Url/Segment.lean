/-
# RemoteUi.Proofs.Url.Segment — segments that are added to a path.

The addresses for uploads and downloads have the session's id as their last segment.  The question
is when two ids make two addresses, and so what an address still tells of the segment that was
added.

A segment is added as one piece: what would divide it is encoded, so it stands behind the last slash
and can be read back from there (`percentDecode?_pushSegment`).  Three kinds of text do not come to
be a segment as they are: tabs and line breaks are left out, one dot and two dots are no segments,
and under `file` a drive letter with a bar gets a colon.  All others are `Faithful`.

* `writeSegments_segment` is the loop in closed form: the text without its breaks, encoded as a
  whole and added as one segment.  A drive letter could interfere, but only right at the beginning
  of a path.
* A segment is taken for a dot or for two by what it decodes to, and encoding is undone by decoding,
  so the encoded text is a dot only if the text was (`eq_dot_of_isDot`, `eq_dots_of_isDoubleDot`).
* What is written last after a slash is the last segment, as an encoded text has no slash
  (`afterLastSlash_writePath`).

For the texts that are not faithful the end of the module says what becomes of them instead: no
segment that is added to `/a` reads as a text with breaks or as dots
(`plain_of_percentDecode?_pushSegment`), and a drive letter at the beginning of a path comes back
with a colon (`percentDecode?_pushSegment_drive`).
-/
import Mathlib.Data.List.TakeWhile
import RemoteUi.Proofs.Url.Path
import RemoteUi.Proofs.Url.Percent

namespace RemoteUi.Url

variable {kind : SchemeKind} {slashBefore : Bool} {cs path : List Char}

/-! ## The last segment -/

/-- What stands after the last slash of a path. -/
def afterLastSlash (path : List Char) : List Char :=
  (path.reverse.takeWhile (· != '/')).reverse

/-- The last segment of an address's path. -/
def lastSegment (u : Url) : List Char :=
  afterLastSlash u.path.toList

theorem bne_slash {segment : List Char} (h : '/' ∉ segment) : ∀ c ∈ segment, (c != '/') = true :=
  fun _ hc => bne_iff_ne.mpr fun heq => h (heq ▸ hc)

/-- A text without slashes stands behind the last slash if one was put before it. -/
theorem afterLastSlash_append {segment : List Char} (h : '/' ∉ segment) (pre : List Char) :
    afterLastSlash (pre ++ '/' :: segment) = segment := by
  have hsegment : ∀ c ∈ segment.reverse, (c != '/') = true := fun c hc =>
    bne_slash h c (List.mem_reverse.mp hc)
  rw [afterLastSlash, List.reverse_append, List.reverse_cons, List.append_assoc,
    List.takeWhile_append_of_pos hsegment]
  simp

/-- The last segment is the same with one slash at the beginning of the path instead of many. -/
theorem afterLastSlash_dropWhile {segment : List Char} (h : '/' ∉ segment) (pre : List Char) :
    afterLastSlash ('/' :: (pre ++ '/' :: segment).dropWhile (· = '/')) = segment := by
  rw [List.dropWhile_append]
  split
  · -- nothing but slashes was before, and the segment is not touched
    have hdrop : ('/' :: segment).dropWhile (· = '/') = segment := by
      cases segment with
      | nil => rfl
      | cons c rest =>
        have hc : ¬ c = '/' := fun heq => h (heq ▸ List.mem_cons_self)
        simp [hc]
    rw [hdrop]
    exact afterLastSlash_append h []
  · rw [← List.cons_append]
    exact afterLastSlash_append h _

/-- What a segment is added to: the path, with one slash at its end. -/
def segmentStart (path : List Char) : List Char :=
  if (withoutLastSlash path).length ≠ 1 then withoutLastSlash path ++ ['/']
  else withoutLastSlash path

/-- A path that begins with a slash, or is empty, has one at its end once a segment may be added. -/
theorem exists_segmentStart (h : path = [] ∨ path.head? = some '/') :
    ∃ pre, segmentStart path = pre ++ ['/'] := by
  unfold segmentStart
  split
  · exact ⟨_, rfl⟩
  · rename_i hlength
    have hbegins : withoutLastSlash path <+: path := by
      unfold withoutLastSlash
      split
      · exact List.dropLast_prefix path
      · exact List.prefix_refl path
    obtain ⟨c, hc⟩ := List.length_eq_one_iff.mp (Decidable.not_not.mp hlength)
    rw [hc] at hbegins ⊢
    obtain ⟨rest, rfl⟩ := hbegins
    rcases h with hnil | hhead
    · cases hnil
    · exact ⟨[], by rw [← Option.some.inj hhead]; rfl⟩

/-- Texts of one dot or two are not added at all; any other is written behind the slash. -/
theorem lastSegment_pushSegment {u : Url} {segment : String}
    (h : ¬ (segment = "." ∨ segment = "..")) : (u.pushSegment segment).lastSegment =
      afterLastSlash (writePath .segment u.kind u.slashBeforePath segment.toList
        (segmentStart u.path.toList)).1.text := by
  unfold pushSegment lastSegment
  dsimp only
  rw [if_neg h]
  dsimp only
  rw [String.toList_ofList]
  rfl

/-! ## Segments that are written -/

variable {encoded : Char → Bool}

theorem encode_append (cs ds : List Char) :
    encode encoded (cs ++ ds) = encode encoded cs ++ encode encoded ds :=
  List.flatMap_append

/-- A segment that is being read is kept in two parts, of which the later one is not encoded yet. -/
theorem OpenSegment.text_push (s : OpenSegment) (c : Char) :
    (s.push c).text encoded = s.text encoded ++ encode encoded [c] := by
  rw [text, push, List.reverse_cons, encode_append, ← List.append_assoc]
  rfl

theorem OpenSegment.text_flush (s : OpenSegment) : (s.flush encoded).text encoded = s.text encoded := by
  rw [text, flush, List.reverse_append, List.reverse_reverse]
  simp [text, encode]

theorem withoutBreaks_eq_self (h : cs.any isTabOrBreak = false) : withoutBreaks cs = cs := by
  refine List.filter_eq_self.mpr fun c hc => ?_
  rw [Bool.eq_false_iff.mpr (List.any_eq_false.mp h c hc)]
  rfl

theorem any_withoutBreaks (cs : List Char) : (withoutBreaks cs).any isTabOrBreak = false := by
  simp [withoutBreaks]

/-- A drive letter is completed by a tab or a line break, and right at the beginning of the path. -/
theorem completesDrive_eq_false {s : OpenSegment} {path : OpenPath}
    (h : s.written = [] ∨ 2 ≤ path.written.length) : s.completesDrive kind path = false := by
  unfold OpenSegment.completesDrive
  refine Bool.and_eq_false_imp.mpr fun _ => ?_
  split
  · rename_i hpath hsegment
    rw [hpath, hsegment] at h
    simp at h
  · rename_i hpath hsegment
    rw [hpath, hsegment] at h
    simp at h
  · rfl

/-- A text that is added as one segment is encoded as a whole, without its tabs and line breaks. -/
theorem writeSegments_segment {segment : OpenSegment} {path : OpenPath}
    (h : segment.written = [] ∧ cs.any isTabOrBreak = false ∨ 2 ≤ path.written.length) :
    writeSegments .segment kind slashBefore cs segment path =
      (appendSegment kind slashBefore path (segment.text (encodedIn .segment kind) ++
        encode (encodedIn .segment kind) (withoutBreaks cs)) false, []) := by
  induction cs generalizing segment with
  | nil =>
    rw [writeSegments]
    simp [withoutBreaks, encode]
  | cons c rest ih =>
    have hdrive : segment.completesDrive kind path = false :=
      completesDrive_eq_false (h.imp_left And.left)
    -- each character is a break, which is left out, or is one more of the segment; no character
    -- ends or divides it
    rw [writeSegments]
    split
    · rename_i hbreak
      -- a break is only met where the path is long enough for a drive letter to be out of question
      have hlong : 2 ≤ path.written.length := h.resolve_left fun hplain => by
        rw [(Bool.or_eq_false_iff.mp hplain.2).1] at hbreak
        cases hbreak
      have hrest : withoutBreaks (c :: rest) = withoutBreaks rest :=
        List.filter_cons_of_neg (by rw [hbreak]; decide)
      rw [ih (Or.inr hlong), OpenSegment.text_flush, hrest]
    · rename_i hplain
      have hrest : withoutBreaks (c :: rest) = [c] ++ withoutBreaks rest :=
        List.filter_cons_of_pos (by rw [Bool.eq_false_iff.mpr hplain]; rfl)
      have hends : endsPath .segment c = false := rfl
      have hseparates : isSeparator .segment kind c = false := rfl
      rw [hends, hseparates, hdrive, if_neg Bool.false_ne_true, if_neg Bool.false_ne_true,
        if_neg Bool.false_ne_true, hrest, encode_append, ← List.append_assoc,
        ← OpenSegment.text_push]
      exact ih (h.imp_left fun h => ⟨h.1, (Bool.or_eq_false_iff.mp h.2).2⟩)

/-! ## Dots -/

/-- A dot is written as itself, or as its octet. -/
theorem decodeOctets_of_afterDot? {rest : List Char} (h : afterDot? cs = some rest) :
    decodeOctets cs = 0x2E :: decodeOctets rest := by
  unfold afterDot? at h
  split at h
  · obtain rfl := Option.some.inj h
    exact decodeOctets_cons (by decide) _
  · obtain rfl := Option.some.inj h
    rw [decodeOctets]
    rfl
  · obtain rfl := Option.some.inj h
    rw [decodeOctets]
    rfl
  · cases h

/-- A text that begins with another character than a dot or a percent sign begins with no dot. -/
theorem afterDot?_of_ne {c : Char} (hdot : c ≠ '.') (hpercent : c ≠ '%') :
    afterDot? (c :: cs) = none := by
  unfold afterDot?
  split
  · rename_i heq
    exact absurd (List.cons.inj heq).1 hdot
  · rename_i heq
    exact absurd (List.cons.inj heq).1 hpercent
  · rename_i heq
    exact absurd (List.cons.inj heq).1 hpercent
  · rfl

/-- What is taken for a dot once it is encoded was a dot, since the percent sign is encoded as well.
-/
theorem eq_dot_of_isDot (hpercent : encoded '%' = true) (h : isDot (encode encoded cs) = true) :
    cs = ['.'] := by
  have hoctets := decodeOctets_of_afterDot? (eq_of_beq h)
  rw [decodeOctets_encode hpercent] at hoctets
  exact octets_injective hoctets

theorem eq_dots_of_isDoubleDot (hpercent : encoded '%' = true)
    (h : isDoubleDot (encode encoded cs) = true) : cs = ['.', '.'] := by
  obtain ⟨rest, hfirst, hsecond⟩ := Option.bind_eq_some_iff.mp (eq_of_beq h)
  have hoctets := decodeOctets_of_afterDot? hfirst
  rw [decodeOctets_encode hpercent, decodeOctets_of_afterDot? hsecond] at hoctets
  exact octets_injective hoctets

/-! ## Drive letters -/

/-- A drive letter is two characters, a letter and a colon or bar. -/
theorem isDrive_eq_true (h : isDrive cs = true) :
    ∃ a b, cs = [a, b] ∧ a.isAlpha = true ∧ (b = ':' ∨ b = '|') := by
  obtain ⟨hlength, hstarts⟩ := Bool.and_eq_true_iff.mp h
  obtain ⟨a, b, rfl⟩ := List.length_eq_two.mp (eq_of_beq hlength)
  unfold startsWithDrive at hstarts
  simp only [Bool.and_true, Bool.and_eq_true, Bool.or_eq_true, beq_iff_eq] at hstarts
  exact ⟨a, b, rfl, hstarts⟩

/-- A text that is a drive letter once it is encoded was one before. -/
theorem eq_of_encode_drive {a b : Char} (hpercent : encoded '%' = true)
    (h : encode encoded cs = [a, b]) (ha : a.isAlpha = true) (hb : b = ':' ∨ b = '|') :
    cs = [a, b] := by
  have hoctets := decodeOctets_encode hpercent cs
  -- neither character of a drive letter is a percent sign, so each decodes to itself
  have ha' : a ≠ '%' := by
    rintro rfl
    cases ha
  have hb' : b ≠ '%' := by rcases hb with rfl | rfl <;> decide
  rw [h, decodeOctets_cons ha', decodeOctets_cons hb'] at hoctets
  exact octets_injective hoctets.symm

/-! ## Segments that stay as they are -/

/-- A text that comes to be a segment as it is. -/
structure Faithful (kind : SchemeKind) (segment : String) : Prop where
  unbroken : segment.toList.any isTabOrBreak = false
  ne_dot : segment ≠ "."
  ne_dots : segment ≠ ".."
  /-- Under `file` it is no drive letter with a bar. -/
  not_drive : kind = .file → ∀ a : Char, a.isAlpha = true → segment.toList ≠ [a, '|']

theorem encodedIn_segment_percent (kind : SchemeKind) : encodedIn .segment kind '%' = true := by
  cases kind <;> rfl

/-- No slash stands in an encoded segment. -/
theorem slash_not_mem_encode (kind : SchemeKind) (cs : List Char) :
    '/' ∉ encode (encodedIn .segment kind) cs := by
  have hslash : encodedIn .segment kind '/' = true := by cases kind <;> rfl
  exact not_mem_encode hslash (by decide) rfl cs

/-- A faithful segment is written as it is: it is no dot or two, and no drive letter that would get
a colon. -/
theorem Faithful.written_appendSegment {segment : String} (h : Faithful kind segment)
    (path : OpenPath) : (appendSegment kind slashBefore path
      (encode (encodedIn .segment kind) segment.toList) false).written =
        (encode (encodedIn .segment kind) segment.toList).reverse ++ path.written := by
  have hpercent := encodedIn_segment_percent kind
  -- an encoded text is told by what it decodes to, which is the text itself
  have hdots : ¬ isDoubleDot (encode (encodedIn .segment kind) segment.toList) = true := fun hdots =>
    h.ne_dots (String.toList_inj.mp (eq_dots_of_isDoubleDot hpercent hdots))
  have hdot : ¬ isDot (encode (encodedIn .segment kind) segment.toList) = true := fun hdot =>
    h.ne_dot (String.toList_inj.mp (eq_dot_of_isDot hpercent hdot))
  unfold appendSegment
  rw [if_neg hdots, if_neg hdot]
  dsimp only
  rw [if_neg Bool.false_ne_true, List.nil_append]
  split
  · rename_i hdrive
    unfold beginsWithDrive at hdrive
    rw [Bool.and_eq_true, Bool.and_eq_true] at hdrive
    obtain ⟨⟨hkind, hdrive⟩, -⟩ := hdrive
    obtain ⟨a, b, hsegment, ha, hb⟩ := isDrive_eq_true hdrive
    -- a drive letter that has a colon already keeps it
    have hcolon : b = ':' := hb.resolve_right fun hbar =>
      h.not_drive (eq_of_beq hkind) a ha
        (hbar ▸ eq_of_encode_drive hpercent hsegment ha hb)
    rw [hsegment, hcolon]
    rfl
  · rfl

/-- What is written last after a slash is the last segment. -/
theorem afterLastSlash_writePath {start segment : List Char} (hsegment : '/' ∉ segment)
    (pre : List Char) (hwritten : (writeSegments .segment kind slashBefore cs .empty
      ⟨start.reverse, false⟩).1.written.reverse = pre ++ '/' :: segment) :
    afterLastSlash (writePath .segment kind slashBefore cs start).1.text = segment := by
  unfold writePath
  dsimp only
  rw [hwritten]
  split
  · exact afterLastSlash_dropWhile hsegment pre
  · exact afterLastSlash_append hsegment pre

variable {u : Url} {segment : String}

/-- A faithful segment that is added is the last one of the path, and reads as it was. -/
theorem percentDecode?_pushSegment (hpath : u.path.toList = [] ∨ u.path.toList.head? = some '/')
    (h : Faithful u.kind segment) :
    percentDecode? (u.pushSegment segment).lastSegment = some segment := by
  obtain ⟨pre, hstart⟩ := exists_segmentStart hpath
  have hdots : ¬ (segment = "." ∨ segment = "..") := fun hdots => hdots.elim h.ne_dot h.ne_dots
  have hlast : (u.pushSegment segment).lastSegment =
      encode (encodedIn .segment u.kind) segment.toList := by
    rw [lastSegment_pushSegment hdots, hstart]
    -- the segment is written as one piece, behind the slash that was put there for it
    refine afterLastSlash_writePath (slash_not_mem_encode _ _) pre ?_
    rw [writeSegments_segment (Or.inl ⟨rfl, h.unbroken⟩), withoutBreaks_eq_self h.unbroken]
    show (appendSegment _ _ _ (encode _ _) _).written.reverse = _
    rw [h.written_appendSegment]
    simp
  rw [hlast]
  exact percentDecode?_encode (encodedIn_segment_percent u.kind) segment

theorem fragment_pushSegment (u : Url) (segment : String) :
    (u.pushSegment segment).fragment = u.fragment := by
  unfold pushSegment
  dsimp only
  split <;> rfl

/-! ## Segments that do not stay as they are -/

/-- A path of one segment is the same in every address that can carry one. -/
theorem path_setPath_single (hbase : u.isBase = true) :
    (u.setPath "/a").withoutTails.path = "/a" := by
  rw [setPath_eq hbase, withoutTails]
  dsimp only
  cases u.kind <;> cases u.slashBeforePath <;> rfl

theorem path_setPath_root (hbase : u.isBase = true) (hkind : u.kind = .file) :
    (u.setPath "/").withoutTails.path = "/" := by
  rw [setPath_eq hbase, withoutTails, hkind]
  dsimp only
  cases u.slashBeforePath <;> rfl

/-- What is written as a segment after another one is no dot or two, and has no tabs and line breaks. -/
theorem afterLastSlash_writePath_plain (kind : SchemeKind) (slashBefore : Bool) (cs : List Char) :
    ∃ plain : List Char, plain.any isTabOrBreak = false ∧ plain ≠ ['.'] ∧
      plain ≠ ['.', '.'] ∧
      afterLastSlash (writePath .segment kind slashBefore cs ['/', 'a', '/']).1.text =
        encode (encodedIn .segment kind) plain := by
  have hwritten : writeSegments .segment kind slashBefore cs .empty ⟨['/', 'a', '/'], false⟩ =
      (appendSegment kind slashBefore ⟨['/', 'a', '/'], false⟩
        (encode (encodedIn .segment kind) (withoutBreaks cs)) false, []) :=
    writeSegments_segment (Or.inr (Nat.le_succ 2))
  -- whatever is appended, it is read back from behind the last slash
  have hlast : ∀ pre segment, '/' ∉ segment →
      (appendSegment kind slashBefore ⟨['/', 'a', '/'], false⟩
        (encode (encodedIn .segment kind) (withoutBreaks cs)) false).written.reverse =
          pre ++ '/' :: segment →
      afterLastSlash (writePath .segment kind slashBefore cs ['/', 'a', '/']).1.text = segment := by
    intro pre segment hsegment hpath
    refine afterLastSlash_writePath hsegment pre ?_
    rw [← hpath]
    exact congrArg (fun r => r.1.written.reverse) hwritten
  by_cases hdots : isDoubleDot (encode (encodedIn .segment kind) (withoutBreaks cs)) = true
  · -- the segment before is taken back
    refine ⟨[], rfl, by decide, by decide, hlast [] [] List.not_mem_nil ?_⟩
    unfold appendSegment
    rw [if_pos hdots]
    cases kind <;> rfl
  · by_cases hdot : isDot (encode (encodedIn .segment kind) (withoutBreaks cs)) = true
    · refine ⟨[], rfl, by decide, by decide, hlast ['/', 'a'] [] List.not_mem_nil ?_⟩
      unfold appendSegment
      rw [if_neg hdots, if_pos hdot]
      rfl
    · refine ⟨withoutBreaks cs, any_withoutBreaks cs, ?_, ?_,
        hlast ['/', 'a'] _ (slash_not_mem_encode _ _) ?_⟩
      · intro heq
        rw [heq] at hdot
        exact hdot (by cases kind <;> rfl)
      · intro heq
        rw [heq] at hdots
        exact hdots (by cases kind <;> rfl)
      · unfold appendSegment
        rw [if_neg hdots, if_neg hdot]
        have hdrive : beginsWithDrive kind ['/', 'a', '/']
            (encode (encodedIn .segment kind) (withoutBreaks cs)) = false := Bool.and_false _
        rw [hdrive]
        simp

variable {text : String}

/-- What is added to a path of one segment never reads as a text with tabs or line breaks, or as a dot
or two. -/
theorem plain_of_percentDecode?_pushSegment (hpath : u.path = "/a")
    (h : percentDecode? (u.pushSegment segment).lastSegment = some text) :
    text.toList.any isTabOrBreak = false ∧ text ≠ "." ∧ text ≠ ".." := by
  by_cases hdots : segment = "." ∨ segment = ".."
  · -- the path stays as it is
    have hstays : (u.pushSegment segment).lastSegment = ['a'] := by
      unfold pushSegment lastSegment
      dsimp only
      rw [if_pos hdots, hpath]
      dsimp only
      rw [String.toList_ofList]
      rfl
    have hdecode : percentDecode? ['a'] = some "a" := percentDecode?_eq rfl
    rw [hstays] at h
    obtain rfl := Option.some.inj (hdecode.symm.trans h)
    exact ⟨rfl, by decide, by decide⟩
  · have hstart : segmentStart "/a".toList = ['/', 'a', '/'] := rfl
    obtain ⟨plain, hplain, hdot, hdots', hlast⟩ :=
      afterLastSlash_writePath_plain u.kind u.slashBeforePath segment.toList
    have hdecode := percentDecode?_encode (encodedIn_segment_percent u.kind) (String.ofList plain)
    rw [lastSegment_pushSegment hdots, hpath, hstart, hlast] at h
    rw [String.toList_ofList] at hdecode
    obtain rfl := Option.some.inj (hdecode.symm.trans h)
    rw [String.toList_ofList]
    refine ⟨hplain, fun heq => hdot ?_, fun heq => hdots' ?_⟩
    · rw [← String.toList_ofList (l := plain), heq]
      rfl
    · rw [← String.toList_ofList (l := plain), heq]
      rfl

/-- Letters and digits, and the few signs that a form leaves alone, are left alone in a segment too.
-/
theorem inSpecialSegment_of_isFormSafe {c : Char} (h : isFormSafe c = true) :
    inSpecialSegment c = false := by
  obtain ⟨hlow, hhigh⟩ := toNat_of_isFormSafe h
  have hne : ∀ sign, isFormSafe sign = false → (c == sign) = false := fun sign hsign =>
    beq_eq_false_iff_ne.mpr (ne_of_isFormSafe hsign h)
  have hbacktick : c.toNat ≠ 0x60 := fun heq =>
    have hsign : c ≠ Char.ofNat 0x60 := ne_of_isFormSafe rfl h
    hsign (by rw [← heq, Char.ofNat_toNat])
  unfold inSpecialSegment inSegment inPath inFragment inControls
  rw [hne ' ' rfl, hne '"' rfl, hne '<' rfl, hne '>' rfl, hne '#' rfl, hne '?' rfl, hne '\x7b' rfl,
    hne '\x7d' rfl, hne '/' rfl, hne '%' rfl, hne '\\' rfl]
  simp
  omega

theorem isTabOrBreak_of_isFormSafe {c : Char} (h : isFormSafe c = true) : isTabOrBreak c = false := by
  have htab : c ≠ '\t' := ne_of_isFormSafe rfl h
  have hfeed : c ≠ '\n' := ne_of_isFormSafe rfl h
  have hreturn : c ≠ '\r' := ne_of_isFormSafe rfl h
  simp [isTabOrBreak, htab, hfeed, hreturn]

/-- At the beginning of a `file` path a letter and a bar are a drive, and are written with a colon.
-/
theorem written_appendSegment_drive {a : Char} (ha : a.isAlpha = true) :
    (appendSegment .file slashBefore ⟨['/'], false⟩ [a, '|'] false).written = [':', a, '/'] := by
  have hdot : a ≠ '.' := by
    rintro rfl
    cases ha
  have hpercent : a ≠ '%' := by
    rintro rfl
    cases ha
  have hafter : afterDot? [a, '|'] = none := afterDot?_of_ne hdot hpercent
  have hdrive : beginsWithDrive .file ['/'] [a, '|'] = true := by
    simp [beginsWithDrive, isDrive, startsWithDrive, ha]
  unfold appendSegment
  rw [isDoubleDot, isDot, hafter, hdrive]
  rfl

/-- A drive letter with a bar that is added at the beginning of a `file` path gets a colon. -/
theorem percentDecode?_pushSegment_drive (hkind : u.kind = .file) (hpath : u.path = "/") {a : Char}
    (ha : a.isAlpha = true) (hsegment : segment.toList = [a, '|']) :
    percentDecode? (u.pushSegment segment).lastSegment = some (String.ofList [a, ':']) := by
  have hsafe : isFormSafe a = true := by simp [isFormSafe, Char.isAlphanum, ha]
  have hslash : a ≠ '/' := ne_of_isFormSafe rfl hsafe
  have hpercent : a ≠ '%' := ne_of_isFormSafe rfl hsafe
  have hbreaks : segment.toList.any isTabOrBreak = false := by
    rw [hsegment, List.any_cons, isTabOrBreak_of_isFormSafe hsafe]
    rfl
  have hencode : encode (encodedIn .segment .file) (withoutBreaks segment.toList) = [a, '|'] := by
    have hplain : encodedIn .segment .file a = false := inSpecialSegment_of_isFormSafe hsafe
    rw [withoutBreaks_eq_self hbreaks, hsegment]
    exact encode_of_plain (by simp [hplain]; rfl)
  -- two characters, of which the second is a bar, are neither one dot nor two
  have hdots : ¬ (segment = "." ∨ segment = "..") := by
    rintro (rfl | rfl)
    · cases hsegment
    · cases hsegment
  have hlast : (u.pushSegment segment).lastSegment = [a, ':'] := by
    have hstart : segmentStart "/".toList = ['/'] := rfl
    rw [lastSegment_pushSegment hdots, hpath, hstart, hkind]
    refine afterLastSlash_writePath (by simp [Ne.symm hslash]) [] ?_
    rw [writeSegments_segment (Or.inl ⟨rfl, hbreaks⟩), hencode]
    exact congrArg List.reverse (written_appendSegment_drive ha)
  rw [hlast]
  refine percentDecode?_eq ?_
  rw [String.toList_ofList, decodeOctets_cons hpercent, decodeOctets_cons (by decide)]
  rfl

end RemoteUi.Url
