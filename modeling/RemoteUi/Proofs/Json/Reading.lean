/-
# RemoteUi.Proofs.Json.Reading — when a record is read, and what is read into it.

A record is read from an object member by member: each member looks for the field of its name, and
the field puts what it reads into the record.  The reader stops at the first fault, so that its
result depends on the order of the members; whether there is a fault at all does not, and that is
what is told here.

A record is read from an object exactly if none of its fields is given twice, every field that is
given is taken, and none that is required is missing (`isOk_read_obj_iff`).  What stands in a field
afterwards is what was read from the member of that name, or what stood there before if there is
none (`Shows.fill_eq`).

Both are shown along `fill`, the loop over the members, with the names seen so far as its state.
For the first, `given` counts how often a field comes in all, in the members that are left and in
those already seen: that count is what a step of the loop leaves as it is.  For the second, a field
that was seen is not set again (`Shows.fill_of_seen`), as a second member of that name would be a
fault.

The records of trees and events are cases of this: for each of them it is enough to say that its
fields have different names, and that what a field takes does not depend on what was read before
(`Uniform`).
-/
import Mathlib.Data.List.Nodup
import RemoteUi.Json.Record

namespace RemoteUi.Json

/-! ## Fields -/

namespace Field

variable {σ α : Type} (name : String) (read : Json → Except Mismatch α) (put : α → σ → σ)

@[simp]
theorem name_optional : (optional name read put).name = name := rfl

@[simp]
theorem name_mandatory : (mandatory name read put).name = name := rfl

@[simp]
theorem required_optional : (optional name read put).required = false := rfl

@[simp]
theorem required_mandatory : (mandatory name read put).required = true := rfl

variable {name read put} {j : Json} {s t : σ}

@[simp]
theorem isOk_optional : ((optional name read put).put j s).isOk = (read j).isOk := by
  simp only [optional]
  cases read j <;> rfl

@[simp]
theorem isOk_mandatory : ((mandatory name read put).put j s).isOk = (read j).isOk := by
  simp only [mandatory]
  cases read j <;> rfl

@[simp]
theorem optional_eq_ok :
    (optional name read put).put j s = .ok t ↔ ∃ a, read j = .ok a ∧ put a s = t := by
  simp only [optional]
  cases read j <;> simp [Except.map]

@[simp]
theorem mandatory_eq_ok :
    (mandatory name read put).put j s = .ok t ↔ ∃ a, read j = .ok a ∧ put a s = t := by
  simp only [mandatory]
  cases read j <;> simp [Except.map]

end Field

namespace Record

variable {σ α : Type} {fields : List (Field σ)} {members : Members} {seen seen' : List String}
  {s s' : σ}

/-- The keys of an object, in order. -/
def keys (members : Members) : List String :=
  members.map Prod.fst

/-! ## Whether a record is read -/

/-- Whether a field takes a document is decided by the document alone. -/
def Uniform (fields : List (Field σ)) : Prop :=
  ∀ f ∈ fields, ∀ j s t, (f.put j s).isOk = (f.put j t).isOk

/-- How often a field is given, those already seen included. -/
def given (members : Members) (seen : List String) (name : String) : Nat :=
  (keys members).count name + if name ∈ seen then 1 else 0

theorem given_cons_of_ne {k name : String} {j : Json} (h : name ≠ k) :
    given ((k, j) :: members) seen name = given members seen name := by
  rw [given, given, keys, List.map_cons, List.count_cons_of_ne (Ne.symm h)]
  rfl

theorem given_cons_self {k : String} {j : Json} (h : k ∉ seen) :
    given ((k, j) :: members) seen k = given members (k :: seen) k := by
  rw [given, given, keys, List.map_cons, List.count_cons_self, if_neg h,
    if_pos List.mem_cons_self]
  rfl

theorem given_seen_of_ne {k name : String} (h : name ≠ k) :
    given members (k :: seen) name = given members seen name := by
  simp [given, h]

/-- The loop comes to an end exactly if each field is given once at most and takes what it is given.
The induction is over the members; the names seen so far are in the count. -/
theorem isOk_fill_iff (hnames : (fields.map Field.name).Nodup) (huniform : Uniform fields) (t : σ) :
    (fill fields members seen s).isOk ↔
      ∀ f ∈ fields, given members seen f.name ≤ 1 ∧
        ∀ j, (f.name, j) ∈ members → (f.put j t).isOk := by
  induction members generalizing seen s with
  | nil =>
    refine iff_of_true rfl fun f hf => ⟨?_, fun j hj => absurd hj List.not_mem_nil⟩
    rw [given]
    split <;> simp [keys]
  | cons m rest ih =>
    obtain ⟨k, j⟩ := m
    simp only [fill]
    -- a member under another name changes nothing for a field
    have hother : ∀ f ∈ fields, f.name ≠ k →
        ((given ((k, j) :: rest) seen f.name ≤ 1 ∧
          ∀ j', (f.name, j') ∈ (k, j) :: rest → (f.put j' t).isOk) ↔
        given rest seen f.name ≤ 1 ∧ ∀ j', (f.name, j') ∈ rest → (f.put j' t).isOk) := by
      intro f hf hne
      rw [given_cons_of_ne hne]
      simp [hne]
    split
    · rename_i hfind
      have hne : ∀ f ∈ fields, f.name ≠ k := by simpa using List.find?_eq_none.mp hfind
      -- the member has no field, and the loop passes over it
      rw [ih]
      exact forall₂_congr fun f hf => (hother f hf (hne f hf)).symm
    · rename_i f hfind
      have hf := List.mem_of_find?_eq_some hfind
      obtain rfl : f.name = k := by simpa using List.find?_some hfind
      split
      · -- the field was given before
        rename_i hseen
        refine iff_of_false Bool.false_ne_true fun h => ?_
        have hgiven := (h f hf).1
        simp [given, keys, hseen] at hgiven
      · rename_i hseen
        split
        · -- the field does not take what it is given, and would take it in no other state of the
          -- record
          rename_i e hput
          refine iff_of_false Bool.false_ne_true fun h => ?_
          have hok := (h f hf).2 j List.mem_cons_self
          rw [huniform f hf j t s, hput] at hok
          cases hok
        · rename_i u hput
          have hok : (f.put j t).isOk := by
            rw [huniform f hf j t s, hput]
            rfl
          rw [ih]
          refine forall₂_congr fun g hg => ?_
          -- the field that was just seen counts as before, now among those seen; the others are as
          -- they were
          by_cases hname : g.name = f.name
          · obtain rfl := List.inj_on_of_nodup_map hnames hg hf hname
            rw [given_cons_self hseen]
            refine and_congr_right fun _ => ⟨fun h j' hj' => ?_, fun h j' hj' => ?_⟩
            · rcases List.mem_cons.mp hj' with heq | hj'
              · cases heq
                exact hok
              · exact h j' hj'
            · exact h j' (List.mem_cons_of_mem _ hj')
          · rw [given_seen_of_ne hname]
            exact (hother g hg hname).symm

/-- The fields that are seen are those that are given. -/
theorem mem_seen_iff (h : fill fields members seen s = .ok (seen', s')) {f : Field σ}
    (hf : f ∈ fields) : f.name ∈ seen' ↔ f.name ∈ seen ∨ f.name ∈ keys members := by
  induction members generalizing seen s with
  | nil =>
    cases h
    simp [keys]
  | cons m rest ih =>
    obtain ⟨k, j⟩ := m
    have hkeys : f.name ∈ keys ((k, j) :: rest) ↔ f.name = k ∨ f.name ∈ keys rest :=
      List.mem_cons
    rw [hkeys]
    simp only [fill] at h
    split at h
    · rename_i hfind
      have hne : f.name ≠ k := by simpa using List.find?_eq_none.mp hfind f hf
      rw [ih h]
      simp [hne]
    · split at h
      · cases h
      · split at h
        · cases h
        · rw [ih h, List.mem_cons]
          tauto

/-- What is read from an object: the loop over its members, and no required field left out. -/
theorem read_obj_eq_ok {r : Record σ} :
    r.read (.obj members) = .ok s ↔
      ∃ seen, fill r.fields members [] r.blank = .ok (seen, s) ∧
        ∀ f ∈ r.fields, f.required → f.name ∈ keys members := by
  show r.ofMembers members = .ok s ↔ _
  unfold ofMembers
  split
  · rename_i e he
    simp [he]
  · rename_i seen t ht
    -- the fault of a missing field is looked for last, among those that were not seen
    have hmissing : (r.fields.find? fun f => f.required && !seen.contains f.name) = none ↔
        ∀ f ∈ r.fields, f.required → f.name ∈ keys members := by
      rw [List.find?_eq_none]
      refine forall₂_congr fun f hf => ?_
      have hseen : f.name ∈ seen ↔ f.name ∈ keys members := by
        rw [mem_seen_iff ht hf]
        simp
      simp [← hseen]
    rw [ht, ← hmissing]
    cases r.fields.find? fun f => f.required && !seen.contains f.name <;> simp

/-- A record is read from an object in which every field is given once at most, each that is given
is taken, and those that are required are given. -/
theorem isOk_read_obj_iff (r : Record σ) (hnames : (r.fields.map Field.name).Nodup)
    (huniform : Uniform r.fields) (members : Members) :
    (r.read (.obj members)).isOk ↔
      (∀ f ∈ r.fields, (keys members).count f.name ≤ 1 ∧
        ∀ j, (f.name, j) ∈ members → (f.put j r.blank).isOk) ∧
      ∀ f ∈ r.fields, f.required → f.name ∈ keys members := by
  have hgiven : ∀ name, given members [] name = (keys members).count name := fun name => by
    simp [given]
  have hfill : (fill r.fields members [] r.blank).isOk ↔ ∀ f ∈ r.fields,
      (keys members).count f.name ≤ 1 ∧ ∀ j, (f.name, j) ∈ members → (f.put j r.blank).isOk := by
    rw [isOk_fill_iff hnames huniform r.blank]
    simp only [hgiven]
  rw [← hfill]
  constructor
  · intro h
    cases hread : r.read (.obj members) with
    | error e =>
      rw [hread] at h
      cases h
    | ok s =>
      obtain ⟨seen, hok, hrequired⟩ := read_obj_eq_ok.mp hread
      rw [hok]
      exact ⟨rfl, hrequired⟩
  · rintro ⟨hok, hrequired⟩
    cases hfill : fill r.fields members [] r.blank with
    | error e =>
      rw [hfill] at hok
      cases hok
    | ok p =>
      rw [read_obj_eq_ok.mpr ⟨p.1, hfill, hrequired⟩]
      rfl

/-! ## What is read -/

section Field

variable {name : String} {read : Json → Except Mismatch α} {get : σ → α}

/-- A field as it shows in a record: its own document sets it, and no other does. -/
structure Shows (fields : List (Field σ)) (name : String) (read : Json → Except Mismatch α)
    (get : σ → α) : Prop where
  mem : ∃ f ∈ fields, f.name = name
  own : ∀ f ∈ fields, f.name = name → ∀ j s t, f.put j s = .ok t → read j = .ok (get t)
  other : ∀ f ∈ fields, f.name ≠ name → ∀ j s t, f.put j s = .ok t → get t = get s

/-- What was set stands. -/
theorem Shows.fill_of_seen (hshows : Shows fields name read get) (hseen : name ∈ seen)
    (h : fill fields members seen s = .ok (seen', s')) : get s' = get s := by
  induction members generalizing seen s with
  | nil =>
    cases h
    rfl
  | cons m rest ih =>
    simp only [fill] at h
    split at h
    · exact ih hseen h
    · rename_i f hfind
      split at h
      · cases h
      · rename_i hnew
        split at h
        · cases h
        · rename_i t hput
          -- a member with the name that was seen would have been a fault
          have hne : f.name ≠ name := by
            rintro rfl
            have hname : f.name = m.1 := by simpa using List.find?_some hfind
            exact hnew (hname ▸ hseen)
          rw [ih (List.mem_cons_of_mem _ hseen) h]
          exact hshows.other f (List.mem_of_find?_eq_some hfind) hne _ _ _ hput

/-- The member of a field's name is what is read into it. -/
theorem Shows.fill_eq (hshows : Shows fields name read get) (hseen : name ∉ seen)
    (h : fill fields members seen s = .ok (seen', s')) :
    match members.find? name with
    | none => get s' = get s
    | some j => read j = .ok (get s') := by
  induction members generalizing seen s with
  | nil =>
    cases h
    rfl
  | cons m rest ih =>
    obtain ⟨k, j⟩ := m
    simp only [fill] at h
    rw [Members.find?]
    split at h
    · rename_i hfind
      obtain ⟨f, hf, hname⟩ := hshows.mem
      have hne : f.name ≠ k := by simpa using List.find?_eq_none.mp hfind f hf
      rw [if_neg (hname ▸ hne)]
      exact ih hseen h
    · rename_i f hfind
      have hf := List.mem_of_find?_eq_some hfind
      obtain rfl : f.name = k := by simpa using List.find?_some hfind
      split at h
      · cases h
      · split at h
        · cases h
        · rename_i t hput
          by_cases hname : name = f.name
          · subst hname
            rw [if_pos rfl, hshows.fill_of_seen List.mem_cons_self h]
            exact hshows.own f hf rfl j s t hput
          · have hrest := ih (by simp [hname, hseen]) h
            rw [hshows.other f hf (Ne.symm hname) j s t hput] at hrest
            rwa [if_neg hname]

end Field

end Record

end RemoteUi.Json
