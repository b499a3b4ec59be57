/-
# RemoteUi.Proofs.Url.Form — the pairs of a form can be read back.

The address of an upload carries a form in its query: pairs of a name and a value, encoded, joined
by equals signs and divided by ampersands.  Here it is shown that the form can be read back, by a
reader that is written from its description and knows nothing of the writer.

* A form is read in two steps: it is divided into pairs, and each pair into a name and a value; then
  plus signs are taken for spaces and percent-encoded octets for themselves (`formPairs?`).
* Neither of the signs that divide a form occurs in an encoded name or value (`not_mem_formEncode`),
  so that pairs of any texts come back as they are (`formPairs?_foldl`), one after the other as they
  were added.
* A name or a value stands for its octets.  A plus sign in an encoded text is a space, since one in
  the text itself is percent-encoded (`decodeOctets_formEncode`).

The form is also to be read off the text of the address as it was given.  For that the characters of
a form must not be encoded once more when the address is read, and must not end the query
(`tails_form`).  Both together are `carriesForm_withQuery`.
-/
import Mathlib.Data.List.TakeWhile
import RemoteUi.Proofs.Url.Percent
import RemoteUi.Url.Edit

namespace RemoteUi.Url

variable {c sep : Char} {cs : List Char} {query name value : String}

/-! ## Reading a form -/

/-- A plus sign is a space. -/
def plusToSpace (c : Char) : Char :=
  if c = '+' then ' ' else c

/-- The text of a name or a value in a form. -/
def formDecode? (cs : List Char) : Option String :=
  percentDecode? (cs.map plusToSpace)

/-- The name and the value of a pair, which its first equals sign divides. -/
def formPair? (pair : List Char) : Option (String × String) := do
  let name ← formDecode? (pair.takeWhile (· != '='))
  let value ← formDecode? ((pair.dropWhile (· != '=')).drop 1)
  return (name, value)

/-- The pairs of a form, without those that are empty. -/
def formPairs? (query : String) : Option (List (String × String)) :=
  ((splitAt '&' query.toList).filter (· ≠ [])).mapM formPair?

/-! ## Names and values -/

/-- A character of a form: one that stands for itself, or one of the two signs of the encoding. -/
theorem mem_formEncode {s : String} (hc : c ∈ formEncode s) :
    isFormSafe c = true ∨ c = '+' ∨ c = '%' := by
  obtain ⟨d, -, hd⟩ := List.mem_flatMap.mp hc
  split at hd
  · rename_i hsafe
    exact Or.inl (List.mem_singleton.mp hd ▸ hsafe)
  · split at hd
    · exact Or.inr (Or.inl (List.mem_singleton.mp hd))
    · exact (mem_percentChar hd).symm.imp_right Or.inr

/-- A sign that has to be encoded does not occur, but for the two signs of the encoding. -/
theorem not_mem_formEncode {sign : Char} (hsafe : isFormSafe sign = false)
    (hsign : sign ≠ '+' ∧ sign ≠ '%') (s : String) : sign ∉ formEncode s := by
  intro hmem
  rcases mem_formEncode hmem with h | h | h
  · rw [hsafe] at h
    cases h
  · exact hsign.1 h
  · exact hsign.2 h

theorem plusToSpace_of_ne (h : c ≠ '+') : plusToSpace c = c :=
  if_neg h

/-- An encoded octet has no plus sign. -/
theorem map_plusToSpace_percentChar (c : Char) :
    (percentChar c).map plusToSpace = percentChar c := by
  refine (List.map_congr_left fun d hd => ?_).trans (List.map_id _)
  refine plusToSpace_of_ne ?_
  rcases mem_percentChar hd with rfl | hsafe
  · decide
  · exact ne_of_isFormSafe rfl hsafe

/-- A name or a value of a form stands for its octets. -/
theorem decodeOctets_formEncode (s : String) :
    decodeOctets ((formEncode s).map plusToSpace) = octets s.toList := by
  unfold formEncode
  induction s.toList with
  | nil => rfl
  | cons c rest ih =>
    have hoctets : octets (c :: rest) = String.utf8EncodeChar c ++ octets rest := List.flatMap_cons
    rw [List.flatMap_cons, List.map_append, hoctets, ← ih]
    split
    · -- the character stands for itself, and is one octet
      rename_i hsafe
      rw [List.map_singleton, plusToSpace_of_ne (ne_of_isFormSafe rfl hsafe)]
      exact decodeOctets_cons (ne_of_isFormSafe rfl hsafe) _
    · split
      · rename_i hspace
        subst hspace
        exact decodeOctets_cons (by decide) _
      · rw [map_plusToSpace_percentChar]
        exact decodeOctets_percentChar c _

/-- An encoded text is read back. -/
theorem formDecode?_formEncode (s : String) : formDecode? (formEncode s) = some s :=
  percentDecode?_eq (decodeOctets_formEncode s)

/-- What is written up to the first equals sign is the name. -/
theorem formPair?_written (name value : String) :
    formPair? (formEncode name ++ '=' :: formEncode value) = some (name, value) := by
  have hname : ∀ c ∈ formEncode name, (c != '=') = true := fun c hc =>
    bne_iff_ne.mpr fun heq => not_mem_formEncode rfl ⟨by decide, by decide⟩ name (heq ▸ hc)
  unfold formPair?
  rw [List.takeWhile_append_of_pos hname, List.dropWhile_append_of_pos hname]
  simp [formDecode?_formEncode]

/-! ## Pairs -/

/-- There is always a piece, if only an empty one. -/
theorem splitAt_ne_nil (sep : Char) (cs : List Char) : splitAt sep cs ≠ [] := by
  cases cs with
  | nil => nofun
  | cons c rest =>
    rw [splitAt]
    split
    · nofun
    · split <;> nofun

/-- A separator divides the pieces before it from those after it. -/
theorem splitAt_append (sep : Char) (cs ds : List Char) :
    splitAt sep (cs ++ sep :: ds) = splitAt sep cs ++ splitAt sep ds := by
  induction cs with
  | nil => simp [splitAt]
  | cons c rest ih =>
    rw [List.cons_append, splitAt, splitAt, ih]
    split
    · rfl
    · cases hrest : splitAt sep rest with
      | nil => exact absurd hrest (splitAt_ne_nil sep rest)
      | cons piece pieces => rfl

theorem splitAt_of_not_mem (h : sep ∉ cs) : splitAt sep cs = [cs] := by
  induction cs with
  | nil => rfl
  | cons c rest ih =>
    rw [List.mem_cons, not_or] at h
    rw [splitAt, if_neg (Ne.symm h.1), ih h.2]

/-- A pair is one piece of a form, and not an empty one. -/
theorem splitAt_pair (name value : String) :
    (splitAt '&' (formEncode name ++ '=' :: formEncode value)).filter (· ≠ []) =
      [formEncode name ++ '=' :: formEncode value] := by
  have hname : '&' ∉ formEncode name := not_mem_formEncode rfl ⟨by decide, by decide⟩ name
  have hvalue : '&' ∉ formEncode value := not_mem_formEncode rfl ⟨by decide, by decide⟩ value
  rw [splitAt_of_not_mem (by simp [hname, hvalue])]
  simp

/-- A pair that is added to a form is read after those before it. -/
theorem formPairs?_appendPair (query name value : String) :
    formPairs? (appendPair query name value) =
      (formPairs? query).map (· ++ [(name, value)]) := by
  -- encoded names and values have no ampersand, so that the pair is one piece
  have hpair : [formEncode name ++ '=' :: formEncode value].mapM formPair? =
      some [(name, value)] := by
    rw [List.mapM_cons, formPair?_written]
    rfl
  unfold appendPair
  dsimp only
  split
  · rename_i hempty
    subst hempty
    rw [formPairs?, String.toList_ofList, splitAt_pair, hpair]
    rfl
  · have htext : (query ++ "&" ++ String.ofList (formEncode name ++ '=' :: formEncode value)).toList =
        query.toList ++ '&' :: (formEncode name ++ '=' :: formEncode value) := by simp
    rw [formPairs?, htext, splitAt_append, List.filter_append, splitAt_pair, List.mapM_append, hpair]
    rw [formPairs?]
    cases ((splitAt '&' query.toList).filter (· ≠ [])).mapM formPair? <;> rfl

/-- Pairs that are added one after the other are read in that order. -/
theorem formPairs?_foldl (pairs : List (String × String)) (query : String) :
    formPairs? (pairs.foldl (fun query p => appendPair query p.1 p.2) query) =
      (formPairs? query).map (· ++ pairs) := by
  induction pairs generalizing query with
  | nil => simp
  | cons p rest ih =>
    rw [List.foldl_cons, ih, formPairs?_appendPair, Option.map_map]
    simp [Function.comp_def]

/-! ## The form of an address -/

/-- A character that is written in a form. -/
def isFormChar (c : Char) : Bool :=
  isFormSafe c || c == '+' || c == '%' || c == '=' || c == '&'

/-- No character of a form is encoded in a query. -/
theorem inSpecialQuery_of_isFormChar (h : isFormChar c = true) : inSpecialQuery c = false := by
  simp only [isFormChar, Bool.or_eq_true, beq_iff_eq] at h
  rcases h with (((hsafe | rfl) | rfl) | rfl) | rfl
  · obtain ⟨hlow, hhigh⟩ := toNat_of_isFormSafe hsafe
    have hne : ∀ sign, isFormSafe sign = false → (c == sign) = false := fun sign hsign =>
      beq_eq_false_iff_ne.mpr (ne_of_isFormSafe hsign hsafe)
    unfold inSpecialQuery inQuery inControls
    rw [hne ' ' rfl, hne '"' rfl, hne '#' rfl, hne '<' rfl, hne '>' rfl]
    simp
    omega
  all_goals rfl

theorem isFormChar_of_mem_formEncode {s : String} (hc : c ∈ formEncode s) : isFormChar c = true := by
  rcases mem_formEncode hc with h | rfl | rfl
  · simp [isFormChar, h]
  · rfl
  · rfl

theorem isFormChar_appendPair (hquery : ∀ c ∈ query.toList, isFormChar c = true)
    (name value : String) : ∀ c ∈ (appendPair query name value).toList, isFormChar c = true := by
  have hpair : ∀ c ∈ formEncode name ++ '=' :: formEncode value, isFormChar c = true := by
    intro c hc
    rcases List.mem_append.mp hc with hc | hc
    · exact isFormChar_of_mem_formEncode hc
    · rcases List.mem_cons.mp hc with rfl | hc
      · rfl
      · exact isFormChar_of_mem_formEncode hc
  intro c hc
  unfold appendPair at hc
  dsimp only at hc
  split at hc
  · exact hpair c (by rwa [String.toList_ofList] at hc)
  · simp only [String.toList_append, List.mem_append, String.toList_ofList] at hc
    rcases hc with (hc | hc) | hc
    · exact hquery c hc
    · obtain rfl := List.mem_singleton.mp hc
      rfl
    · exact hpair c (List.mem_append.mpr hc)

/-- A form of any pairs has the characters of a form only. -/
theorem isFormChar_foldl (pairs : List (String × String))
    (hquery : ∀ c ∈ query.toList, isFormChar c = true) :
    ∀ c ∈ (pairs.foldl (fun query p => appendPair query p.1 p.2) query).toList,
      isFormChar c = true := by
  induction pairs generalizing query with
  | nil => exact hquery
  | cons p rest ih => exact ih (isFormChar_appendPair hquery p.1 p.2)

/-- In the text of an address a form is read as the query that it is, and nothing follows it. -/
theorem tails_form (kind : SchemeKind) (hquery : ∀ c ∈ query.toList, isFormChar c = true) :
    tails kind ('?' :: query.toList) = (some query, none) := by
  have hhash : ∀ c ∈ query.toList, decide (c ≠ '#') = true := by
    intro c hc
    refine decide_eq_true fun heq => ?_
    have hform := hquery c hc
    rw [heq] at hform
    cases hform
  have hplain : ∀ encoded : Char → Bool, (∀ c, inSpecialQuery c = false → encoded c = false) →
      encode encoded query.toList = query.toList := fun encoded hsub =>
    encode_of_plain fun c hc => hsub c (inSpecialQuery_of_isFormChar (hquery c hc))
  have hencode : encode (if kind.isSpecial then inSpecialQuery else inQuery) query.toList =
      query.toList := by
    refine hplain _ fun c hc => ?_
    split
    · exact hc
    · exact (Bool.or_eq_false_iff.mp hc).1
  have htake : query.toList.takeWhile (fun c => decide (c ≠ '#')) = query.toList :=
    List.takeWhile_eq_self_iff.mpr hhash
  have hdrop : query.toList.dropWhile (fun c => decide (c ≠ '#')) = [] :=
    List.dropWhile_eq_nil_iff.mpr hhash
  unfold tails
  split
  · rename_i rest heq
    obtain rfl := (List.cons.inj heq).2
    dsimp only
    rw [htake, hdrop, hencode, String.ofList_toList]
  · rename_i hother
    exact absurd rfl (hother query.toList)

/-- The address carries a form of these pairs, and ends with it. -/
structure CarriesForm (u : Url) (pairs : List (String × String)) : Prop where
  fragment : u.fragment = none
  /-- The pairs are read off the query, and its text is read as this query again. -/
  query : ∃ query, u.query = some query ∧ formPairs? query = some pairs ∧
    tails u.kind ('?' :: query.toList) = (some query, none)

/-- An address without a fragment carries any form that it is given. -/
theorem carriesForm_withQuery {u : Url} (hfragment : u.fragment = none)
    (pairs : List (String × String)) : (u.withQuery pairs).CarriesForm pairs where
  fragment := hfragment
  query := by
    refine ⟨_, rfl, ?_, tails_form _ (isFormChar_foldl pairs nofun)⟩
    rw [formPairs?_foldl]
    rfl

end RemoteUi.Url
