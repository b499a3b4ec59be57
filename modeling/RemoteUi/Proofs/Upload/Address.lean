/-
# RemoteUi.Proofs.Upload.Address — the request id in the address of a download.

The query of a download's address is a form whose first pair is the request id.  A name and a value
that need no encoding stand in a form as they are, up to the next `&`, so that the id can be read
off the address again (`requestId?_of_downloadUrl`).

* Whatever pairs are added to a form that is not empty, what is added begins with the sign that
  parts pairs (`foldl_appendPair`).  So the first pair ends where the next begins, whatever the
  other pairs are.
* A request id is written in decimal digits, which need no encoding, and is read as the number that
  they are (`number?_toString`).

Nothing is asked of the other parameters, nor of the address that a download is made for; if there
is one, it carries the id.
-/
import Mathlib.Data.List.Basic
import RemoteUi.Upload.Batch

namespace RemoteUi

namespace Url

/-! ## Forms -/

/-- The value of the first pair of an address's form, if it goes by a name. -/
def firstValue? (u : Url) (name : String) : Option (List Char) :=
  u.query.bind fun query =>
    if (name.toList ++ ['=']).isPrefixOf query.toList then
      some ((query.toList.drop (name.toList ++ ['=']).length).takeWhile (· != '&'))
    else none

/-- A text of characters that stand for themselves is written as it is. -/
theorem formEncode_of_safe {s : String} (h : ∀ c ∈ s.toList, isFormSafe c = true) :
    formEncode s = s.toList := by
  unfold formEncode
  generalize s.toList = cs at h
  induction cs with
  | nil => rfl
  | cons c rest ih =>
    obtain ⟨hc, hrest⟩ := List.forall_mem_cons.mp h
    rw [List.flatMap_cons, if_pos hc, ih hrest, List.singleton_append]

/-- What is added to a form that is not empty begins with the sign that parts pairs. -/
theorem foldl_appendPair {query : String} (hquery : query ≠ "") (pairs : List (String × String)) :
    ∃ tail, (pairs.foldl (fun query p => appendPair query p.1 p.2) query).toList =
      query.toList ++ tail ∧ tail.takeWhile (· != '&') = [] := by
  induction pairs generalizing query with
  | nil => exact ⟨[], (List.append_nil _).symm, rfl⟩
  | cons p rest ih =>
    have happend : ∃ pair, appendPair query p.1 p.2 = query ++ "&" ++ pair :=
      ⟨_, if_neg hquery⟩
    obtain ⟨pair, hpair⟩ := happend
    have hne : appendPair query p.1 p.2 ≠ "" := by
      rw [hpair, ← String.toList_inj.ne]
      simp
    obtain ⟨tail, htail, -⟩ := ih hne
    refine ⟨'&' :: (pair.toList ++ tail), ?_, rfl⟩
    rw [List.foldl_cons, htail, hpair]
    simp

/-- The first pair of a form can be read again. -/
theorem firstValue?_withQuery (u : Url) {name value : String} (pairs : List (String × String))
    (hname : ∀ c ∈ name.toList, isFormSafe c = true)
    (hvalue : ∀ c ∈ value.toList, isFormSafe c = true) :
    (u.withQuery ((name, value) :: pairs)).firstValue? name = some value.toList := by
  have hpair : appendPair "" name value =
      String.ofList ((name.toList ++ ['=']) ++ value.toList) := by
    unfold appendPair
    rw [if_pos rfl, formEncode_of_safe hname, formEncode_of_safe hvalue, List.append_assoc]
    rfl
  have hne : appendPair "" name value ≠ "" := by
    rw [hpair, ← String.toList_inj.ne, String.toList_ofList]
    simp
  obtain ⟨tail, htail, hsign⟩ := foldl_appendPair hne pairs
  rw [hpair, String.toList_ofList] at htail
  -- the value ends where the next pair begins
  have hplain : ∀ c ∈ value.toList, (c != '&') = true := by
    intro c hc
    rw [bne_iff_ne]
    rintro rfl
    exact absurd (hvalue _ hc) (by decide)
  unfold firstValue? withQuery
  rw [List.foldl_cons, hpair, Option.bind_some, htail, List.append_assoc, if_pos]
  · rw [List.drop_left, List.takeWhile_append_of_pos hplain, hsign, List.append_nil]
  · exact List.isPrefixOf_iff_prefix.mpr (List.prefix_append _ _)

/-! ## The request id -/

/-- The number that decimal digits are. -/
def number? (digits : List Char) : Option Nat :=
  if digits ≠ [] ∧ digits.all Char.isDigit then some (Nat.ofDigitChars 10 digits 0) else none

/-- The request id that an address carries. -/
def requestId? (u : Url) : Option Nat :=
  (u.firstValue? "request_id").bind number?

/-- A number is written in decimal digits. -/
theorem isDigit_of_mem_toString {n : Nat} {c : Char} (hc : c ∈ (toString n).toList) :
    c.isDigit = true := by
  rw [Nat.toString_eq_repr, Nat.toList_repr] at hc
  exact Nat.isDigit_of_mem_toDigits (by decide) (by decide) hc

/-- Decimal digits are read as the number that was written. -/
theorem number?_toString (n : Nat) : number? (toString n).toList = some n := by
  have hdigits : (toString n).toList.all Char.isDigit = true :=
    List.all_eq_true.mpr fun c hc => isDigit_of_mem_toString hc
  have hne : (toString n).toList ≠ [] := by
    rw [Nat.toString_eq_repr, Nat.toList_repr]
    exact Nat.toDigits_ne_nil
  rw [number?, if_pos ⟨hne, hdigits⟩, Nat.toString_eq_repr, Nat.toList_repr,
    Nat.ofDigitChars_ten_toDigits]

end Url

/-- The address of a download carries the id that it was made for. -/
theorem Upload.requestId?_of_downloadUrl {origin url : Url} {path sessionId : String}
    {requestId : Nat} {fragmentId widgetId : String}
    (h : downloadUrl origin path sessionId requestId fragmentId widgetId = .ok url) :
    url.requestId? = some requestId := by
  unfold downloadUrl at h
  cases hsession : sessionUrl origin path sessionId with
  | error e =>
    rw [hsession] at h
    cases h
  | ok session =>
    rw [hsession] at h
    obtain rfl := Except.ok.inj h
    have hsafe : ∀ c ∈ (toString requestId).toList, Url.isFormSafe c = true := by
      intro c hc
      simp [Url.isFormSafe, Char.isAlphanum, Url.isDigit_of_mem_toString hc]
    have hname : ∀ c ∈ "request_id".toList, Url.isFormSafe c = true :=
      List.all_eq_true.mp (by decide +kernel)
    rw [Url.requestId?, Url.firstValue?_withQuery session _ hname hsafe, Option.bind_some]
    exact Url.number?_toString requestId

end RemoteUi
