/-
# RemoteUi.Proofs.Url.Path — what a written path begins with.

A path is written segment by segment, from its beginning to its end, and a double dot takes the last
segment back.  What is asked here is what a path begins with, because an address can carry a path
only if it begins with a slash, or if something before the path holds a place for it.

A path that has begun with a slash keeps it, whatever is written after it: a double dot takes
segments back, but never the first slash (`rooted_writeSegments`).  The path is written in reverse,
so that it begins with a slash if the slash is its last character (`Rooted`), and each way of
shortening or lengthening a path has a lemma that keeps it.

So an address that can carry a path can still carry one when its path is replaced, unless the new
path is empty and nothing else holds a place for one (`isBase_setPath_iff`).  That needs three
things of the address at once: a scheme that asks for no path, no authority, and no guard before the
path (`BaredBy`).

An address of the network that was read has a host (`hosted_of_parse`), which is why the slash
before its path need not be asked for anywhere else.
-/
import Mathlib.Data.List.Infix
import RemoteUi.Url.Edit

namespace RemoteUi.Url

variable {source : PathSource} {kind : SchemeKind} {slashBefore : Bool} {cs path : List Char}

/-! ## The slash at the beginning -/

/-- A path, in reverse, begins with a slash. -/
def Rooted (path : List Char) : Prop :=
  ['/'] <:+ path

/-- What is written after the slash leaves it where it is. -/
theorem Rooted.append (h : Rooted path) (more : List Char) : Rooted (more ++ path) :=
  h.trans (List.suffix_append more path)

/-- What is left of a path after some of its end was taken back begins as the path does. -/
theorem Rooted.of_suffix {shorter : List Char} (h : Rooted path) (hshorter : shorter <:+ path)
    (hne : shorter ≠ []) : Rooted shorter :=
  List.suffix_of_suffix_length_le h hshorter (List.length_pos_iff.mpr hne)

/-- The path as it is read, from its beginning. -/
theorem Rooted.head? {text : List Char} (h : Rooted text.reverse) : text.head? = some '/' := by
  obtain ⟨rest, hrest⟩ := h
  have htext : text = '/' :: rest.reverse := by
    rw [← List.reverse_reverse text, ← hrest]
    simp
  rw [htext]
  rfl

/-- A slash at the end is taken back only if it is not the only character. -/
theorem Rooted.dropLastSlash (h : Rooted path) : Rooted (dropLastSlash path) := by
  unfold Url.dropLastSlash
  split
  · rename_i before
    split
    · exact h
    · rename_i hlast
      refine h.of_suffix (List.suffix_cons '/' before) ?_
      rintro rfl
      exact hlast rfl
  · exact h

/-- A segment is taken back as far as the slash before it. -/
theorem Rooted.dropLastSegment (h : Rooted path) (kind : SchemeKind) :
    Rooted (dropLastSegment kind path) := by
  unfold Url.dropLastSegment
  split
  · exact h
  · split
    · exact h
    · rename_i hne
      exact h.of_suffix (List.dropWhile_suffix _) hne

/-- Whatever a segment is, a double dot, a dot or a name, the first slash stays. -/
theorem Rooted.appendSegment {path : OpenPath} (h : Rooted path.written) (kind : SchemeKind)
    (slashBefore : Bool) (segment : List Char) (slash : Bool) :
    Rooted (appendSegment kind slashBefore path segment slash).written := by
  unfold Url.appendSegment
  split
  · -- a double dot takes the last segment back
    have hshorter := h.dropLastSlash.dropLastSegment kind
    dsimp only
    split
    · exact hshorter.append ['/']
    · exact hshorter
  · split
    · dsimp only
      split
      · exact h
      · exact h.append ['/']
    · exact (h.append _).append _

/-- The induction is over the characters to be written.  The first slash is kept at each of them,
whether it ends the path, ends a segment, completes a drive letter or is part of a segment. -/
theorem rooted_writeSegments {segment : OpenSegment} {path : OpenPath} (h : Rooted path.written) :
    Rooted (writeSegments source kind slashBefore cs segment path).1.written := by
  induction cs generalizing segment path with
  | nil => exact h.appendSegment _ _ _ _
  | cons c rest ih =>
    rw [writeSegments]
    split
    · exact ih h
    · split
      · exact h.appendSegment _ _ _ _
      · split
        · exact ih (h.appendSegment _ _ _ _)
        · split
          · exact ih (h.append _)
          · exact ih h

/-- A path that is written after a slash begins with it, once it is put the right way round. -/
theorem head?_writePath {start : List Char} (hstart : start.head? = some '/') :
    (writePath source kind slashBefore cs start).1.text.head? = some '/' := by
  have hrooted : Rooted start.reverse := by
    obtain ⟨rest, rfl⟩ : ∃ rest, start = '/' :: rest := by
      cases start with
      | nil => cases hstart
      | cons c rest => exact ⟨rest, by rw [Option.some.inj hstart]⟩
    exact ⟨rest.reverse, by simp⟩
  have hwritten : Rooted (writeSegments source kind slashBefore cs .empty
      ⟨start.reverse, false⟩).1.written := rooted_writeSegments hrooted
  unfold writePath
  dsimp only
  split
  · rfl
  · refine Rooted.head? ?_
    rwa [List.reverse_reverse]

/-- A path of a `file` address begins with a slash in any case. -/
theorem head?_writePath_file (start : List Char) :
    (writePath source .file slashBefore cs start).1.text.head? = some '/' := rfl

/-- A path that is read from its slash begins with it. -/
theorem writePath_slash (kind : SchemeKind) (slashBefore : Bool) (cs : List Char) :
    writePath .whole kind slashBefore ('/' :: cs) [] =
      writePath .whole kind slashBefore cs ['/'] := by
  unfold writePath
  cases kind <;> rfl

/-! ## Paths that are replaced -/

/-- A text that is no path: there is nothing in it, or nothing before a question mark or hash. -/
def isVoid (text : List Char) : Bool :=
  match skipBreaks text with
  | [] => true
  | c :: _ => c == '?' || c == '#'

/-- A text that is no path leaves an address without one, if its scheme asks for none. -/
theorem startPath_void (hvoid : isVoid cs = true) :
    (startPath .whole .other slashBefore cs).1.text = [] := by
  unfold isVoid at hvoid
  unfold startPath
  generalize skipBreaks cs = text at hvoid
  cases text with
  | nil => rfl
  | cons c rest =>
    simp only [Bool.or_eq_true, beq_iff_eq] at hvoid
    rcases hvoid with rfl | rfl
    · rfl
    · rfl

/-- In all other cases the path that is written begins with a slash. -/
theorem head?_startPath (hnetwork : kind = .network → slashBefore = false)
    (hvoid : kind = .other → isVoid cs = false) :
    (startPath .whole kind slashBefore cs).1.text.head? = some '/' := by
  unfold isVoid at hvoid
  unfold startPath
  generalize skipBreaks cs = text at hvoid
  -- the three kinds of scheme begin a path in different ways
  cases kind with
  | file =>
    have hspecial : SchemeKind.isSpecial .file = true := rfl
    rw [if_pos hspecial]
    split
    · exact head?_writePath_file _
    · split <;> exact head?_writePath_file _
  | network =>
    have hspecial : SchemeKind.isSpecial .network = true := rfl
    rw [if_pos hspecial, hnetwork rfl, if_neg Bool.false_ne_true]
    split <;> exact head?_writePath rfl
  | other =>
    have hspecial : ¬ SchemeKind.isSpecial .other = true := Bool.false_ne_true
    have hvoid := hvoid rfl
    rw [if_neg hspecial]
    split
    · cases hvoid
    · cases hvoid
    · cases hvoid
    · rw [writePath_slash]
      exact head?_writePath rfl
    · exact head?_writePath rfl

/-! ## Addresses whose path is replaced -/

variable {u : Url} {segment : String}

/-- An address of the network has a host. -/
def Hosted (u : Url) : Prop :=
  u.kind = .network → u.slashBeforePath = false

/-- With this path the address has none, and nothing holds a place for one: its scheme asks for no
path, and it has no authority. -/
structure BaredBy (u : Url) (path : String) : Prop where
  kind : u.kind = .other
  authority : u.authority = none
  guarded : u.guarded = false
  void : isVoid path.toList = true

/-- Only the path of an address that can carry one is replaced. -/
theorem setPath_eq (hbase : u.isBase = true) (path : String) : u.setPath path =
    { u with path := .ofList (startPath .whole u.kind u.slashBeforePath path.toList).1.text } := by
  rw [setPath, if_pos hbase]

/-- A path that replaces another begins with a slash, or there is none. -/
theorem head?_setPath (hbase : u.isBase = true) (hhosted : u.Hosted) (path : String) :
    (u.setPath path).path.toList = [] ∨ (u.setPath path).path.toList.head? = some '/' := by
  rw [setPath_eq hbase, String.toList_ofList]
  by_cases hvoid : u.kind = .other ∧ isVoid path.toList = true
  · rw [hvoid.1]
    exact Or.inl (startPath_void hvoid.2)
  · refine Or.inr (head?_startPath hhosted fun hother => ?_)
    exact Bool.eq_false_iff.mpr fun h => hvoid ⟨hother, h⟩

/-- An address that can carry a path still can when its path is replaced, unless that bares it. -/
theorem isBase_setPath_iff (hbase : u.isBase = true) (path : String) :
    (u.setPath path).isBase = true ↔ ¬ u.BaredBy path := by
  constructor
  · -- none of the three things that can hold a place is there
    intro hcarries hbared
    rw [setPath_eq hbase, hbared.kind, startPath_void hbared.void, isBase, hbared.authority,
      hbared.guarded] at hcarries
    cases hcarries
  · -- an authority or a guard holds a place for any path; else the path begins with a slash, as it
    -- is not void
    intro hbared
    rw [setPath_eq hbase, isBase, Bool.or_eq_true, Bool.or_eq_true]
    by_cases hheld : u.authority.isSome = true ∨ u.guarded = true
    · exact Or.inl hheld
    · rw [not_or, Bool.not_eq_true, Bool.not_eq_true] at hheld
      have hauthority : u.authority = none :=
        Option.isNone_iff_eq_none.mp (Option.isSome_eq_false_iff.mp hheld.1)
      have hslash : u.slashBeforePath = false := by rw [slashBeforePath, hauthority]
      refine Or.inr (decide_eq_true ?_)
      rw [String.toList_ofList]
      refine head?_startPath (fun _ => hslash) fun hother => ?_
      exact Bool.eq_false_iff.mpr fun hvoid => hbared ⟨hother, hauthority, hheld.2, hvoid⟩

@[simp]
theorem kind_setPath (u : Url) (path : String) : (u.setPath path).kind = u.kind := by
  unfold setPath
  dsimp only
  split <;> rfl

/-- A path that is not void bares no address. -/
theorem not_baredBy {path : String} (h : isVoid path.toList = false) : ¬ u.BaredBy path := by
  intro hbared
  rw [hbared.void] at h
  cases h

/-! ## Addresses that were read -/

theorem ipv4Text_ne_empty (n : Nat) : ipv4Text n ≠ "" := by
  rw [← String.toList_inj.ne, ipv4Text, String.toList_intercalate]
  simp

theorem ipv6Text_ne_empty (pieces : List Nat) : ipv6Text pieces ≠ "" := by
  rw [← String.toList_inj.ne]
  unfold ipv6Text
  dsimp only
  split <;> simp

/-- What is read as a host is a number or a name, and is never empty. -/
theorem Host.text_ne_empty {host : Host} (h : Host.parse cs = .ok host) : host.text ≠ "" := by
  unfold Host.parse at h
  split at h
  · unfold bracketed at h
    split at h
    · split at h
      · obtain rfl := Except.ok.inj h
        exact ipv6Text_ne_empty _
      · cases h
    · cases h
  · split at h
    · cases h
    · split at h
      · cases h
      · rename_i name _ hname
        split at h
        · split at h
          · obtain rfl := Except.ok.inj h
            exact ipv4Text_ne_empty _
          · cases h
        · obtain rfl := Except.ok.inj h
          exact fun hempty => hname (String.ofList_eq_empty_iff.mp hempty)

theorem readHost_network_ne_empty {host : String} (h : readHost .network cs = .ok host) :
    host ≠ "" := by
  have hspecial : SchemeKind.isSpecial .network = true := rfl
  unfold readHost at h
  rw [if_pos hspecial] at h
  split at h
  · cases h
  · cases hparse : Host.parse cs with
    | error e => rw [hparse] at h; cases h
    | ok parsed =>
      rw [hparse] at h
      obtain rfl := Except.ok.inj h
      exact Host.text_ne_empty hparse

/-- An address of the network is refused without a host. -/
theorem host_readAuthority_ne_empty {scheme : String} {rest : List Char} {authority : Authority}
    (h : readAuthority scheme .network cs = .ok (authority, rest)) : authority.host ≠ "" := by
  unfold readAuthority at h
  split at h
  · cases h
  · dsimp only at h
    split at h
    · cases h
    · rename_i host hhost
      split at h
      · cases h
      · split at h
        · cases h
        · obtain ⟨rfl, -⟩ := Prod.mk.inj (Except.ok.inj h)
          exact readHost_network_ne_empty hhost

/-- What is read as a `file` address has that scheme, whichever way its slashes are read. -/
theorem scheme_readFile (h : readFile cs = .ok u) : u.scheme = "file" := by
  unfold readFile afterFileSlashes at h
  dsimp only at h
  repeat' split at h
  all_goals first | cases h; done | (obtain rfl := Except.ok.inj h; rfl)

/-- What follows the slashes is an authority, and the scheme is as it was. -/
theorem scheme_afterSlashes {scheme : String} (h : afterSlashes scheme kind cs = .ok u) :
    u.scheme = scheme ∧ ∃ authority rest, readAuthority scheme kind cs = .ok (authority, rest) ∧
      u.authority = some authority := by
  unfold afterSlashes at h
  split at h
  · cases h
  · rename_i authority rest hread
    obtain rfl := Except.ok.inj h
    exact ⟨rfl, authority, rest, hread, rfl⟩

theorem scheme_readOther {scheme : String} (h : readOther scheme cs = .ok u) :
    u.scheme = scheme := by
  unfold readOther at h
  split at h
  · exact (scheme_afterSlashes h).1
  · obtain rfl := Except.ok.inj h
    rfl
  · obtain rfl := Except.ok.inj h
    rfl

/-- An address of the network that was read has a host. -/
theorem hosted_of_parse {s : String} (h : parse s = .ok u) : u.Hosted := by
  intro hnetwork
  unfold parse at h
  dsimp only at h
  split at h
  · cases h
  · rename_i scheme rest _
    split at h
    · rw [kind, scheme_readFile h] at hnetwork
      cases hnetwork
    · obtain ⟨-, authority, _, hread, hauthority⟩ := scheme_afterSlashes h
      have hhost := host_readAuthority_ne_empty hread
      rw [slashBeforePath, hauthority]
      simp [hhost]
    · rename_i hother
      rw [kind, scheme_readOther h, hother] at hnetwork
      cases hnetwork

end RemoteUi.Url
