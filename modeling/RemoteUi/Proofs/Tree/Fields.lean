/-
# RemoteUi.Proofs.Tree.Fields — the fields of a document that describes a node.

A document names its kind, and a container lists the documents in it.  Whether a document is well
formed is a matter of its own fields: those of a container are looked at without what is in it
(`wellFormed_container_iff`).

A node is read in two passes over the same members, first for its head and then for the fields of
its kind, each with a record of its own.  What both have in common is told for all records: a field
that is required has to be there, none may be there twice, and each has to be of its type.  Here
this is said of the fields by name.

* The kind in a head is the one that the document names (`typeName?_of_header`), and a container
  holds the documents that it lists (`children_of_props`).  An array can be read as a record as
  well, by position; but what is read as a head is read as no container.
* Of the fields of a container, most are taken whatever they are: an id that is neither a text nor a
  number is none, and a style that is none is empty.  What is left is `ContainerFields`.
-/
import RemoteUi.Proofs.Json.Reading
import RemoteUi.Proofs.Tree.Identity

namespace RemoteUi

open Json (Field Members Record readText readFlag)

namespace Json

/-- The name of its kind that a document gives: the member `type`, or the first item. -/
def typeName? : Json → Option String
  | .obj members => (Members.find? "type" members).bind text?
  | .arr (j :: _) => j.text?
  | _ => none

/-- The documents in a container, in order. -/
def children (j : Json) : List Json :=
  ((j.get? "children").bind items?).getD []

/-- A key that stands among the members is found. -/
theorem Members.isSome_find?_iff {members : Members} {name : String} :
    (find? name members).isSome ↔ name ∈ Record.keys members := by
  induction members with
  | nil => simp [find?, Record.keys]
  | cons m rest ih =>
    have hkeys : name ∈ Record.keys (m :: rest) ↔ name = m.1 ∨ name ∈ Record.keys rest :=
      List.mem_cons
    rw [find?, hkeys, ← ih]
    split <;> simp [*]

/-- A member whose key stands once is the one that is found. -/
theorem Members.find?_eq_some_of_mem {members : Members} {name : String} {j : Json}
    (honce : (Record.keys members).count name ≤ 1) (hmem : (name, j) ∈ members) :
    find? name members = some j := by
  induction members with
  | nil => cases hmem
  | cons m rest ih =>
    rw [Record.keys, List.map_cons, List.count_cons] at honce
    rw [find?]
    rcases List.mem_cons.mp hmem with rfl | hmem
    · exact if_pos rfl
    · have hrest : 0 < (rest.map Prod.fst).count name :=
        List.count_pos_iff.mpr (List.mem_map.mpr ⟨_, hmem, rfl⟩)
      have hne : name ≠ m.1 := by
        rintro rfl
        simp only [beq_self_eq_true, if_pos] at honce
        omega
      rw [if_neg hne]
      exact ih (Nat.le_trans (Nat.le_add_right _ _) honce) hmem

theorem eq_str_of_text? {j : Json} {s : String} (h : j.text? = some s) : j = .str s := by
  cases j <;> cases h
  rfl

end Json

theorem NodeKind.ofWire?_eq_container_iff {kind : String} :
    ofWire? kind = some .container ↔ kind = "container" := by
  constructor
  · intro h
    unfold ofWire? at h
    split at h <;> first | rfl | cases h
  · rintro rfl
    rfl

namespace Tree

variable {header : Header} {props : ContainerProps} {members : Members} {j : Json}

/-! ## What is read -/

/-- The field of the kind is the only one that writes it. -/
theorem shows_kind : Record.Shows Header.record.fields "type" readText Header.kind where
  mem := by simp [Header.record]
  own := by simp [Header.record]
  other := by simp [Header.record]

/-- The field of what is in a container is the only one that writes that. -/
theorem shows_children :
    Record.Shows ContainerProps.record.fields "children" readItems ContainerProps.children where
  mem := by simp [ContainerProps.record]
  own := by simp [ContainerProps.record]
  other := by
    simp only [ContainerProps.record, List.forall_mem_cons, Field.name_optional,
      Field.optional_eq_ok]
    refine ⟨?_, ?_, fun h => absurd rfl h, fun _ h => absurd h List.not_mem_nil⟩ <;>
    · rintro - j s t ⟨a, -, rfl⟩
      rfl

theorem readText_eq_ok {s : String} (h : readText j = .ok s) : j = .str s := by
  cases j <;> cases h
  rfl

theorem readItems_eq_ok {items : List Json} (h : readItems j = .ok items) : j = .arr items := by
  cases j <;> cases h
  rfl

/-- The kind in a head is the one that the document names. -/
theorem typeName?_of_header (h : Header.record.read j = .ok header) :
    j.typeName? = some header.kind := by
  cases j with
  | obj members =>
    obtain ⟨seen, hfill, hrequired⟩ := Record.read_obj_eq_ok.mp h
    have htype := shows_kind.fill_eq List.not_mem_nil hfill
    have hkey : (Members.find? "type" members).isSome :=
      Members.isSome_find?_iff.mpr (hrequired _ List.mem_cons_self rfl)
    obtain ⟨j, hj⟩ := Option.isSome_iff_exists.mp hkey
    rw [hj] at htype
    rw [Json.typeName?, hj, readText_eq_ok htype]
    rfl
  | arr items =>
    -- the head of an array is its first item, which is a text
    cases items with
    | nil => cases h
    | cons first rest =>
      cases first with
      | str s =>
        have hrest : Record.fillItems (Header.record.name ++ " with " ++ Json.elements 6)
            Header.record.fields.tail rest 1 { Header.record.blank with kind := s } = .ok header := h
        have hne : ∀ f ∈ Header.record.fields.tail, f.name ≠ "type" := by simp [Header.record]
        have hkeeps : Record.Keeps (fun h => h.kind = s) Header.record.fields.tail := by
          intro f hf j h t hkind hput
          exact (shows_kind.other f (List.mem_of_mem_tail hf) (hne f hf) j h t hput).trans hkind
        rw [Record.fillItems_keeps hkeeps rfl hrest]
        rfl
      | null | bool | int | float | arr | obj => cases h
  | null | bool | int | float | str => cases h

/-- A container is an object, and holds the documents that it lists. -/
theorem children_of_props (hheader : Header.record.read j = .ok header)
    (hprops : ContainerProps.record.read j = .ok props) :
    (∃ members, j = .obj members) ∧ props.children = j.children := by
  cases j with
  | obj members =>
    refine ⟨⟨members, rfl⟩, ?_⟩
    obtain ⟨seen, hfill, -⟩ := Record.read_obj_eq_ok.mp hprops
    have hitems := shows_children.fill_eq List.not_mem_nil hfill
    rw [Json.children, Json.get?]
    cases hfind : Members.find? "children" members with
    | none =>
      rw [hfind] at hitems
      exact hitems
    | some j =>
      rw [hfind] at hitems
      rw [readItems_eq_ok hitems]
      rfl
  | arr items =>
    -- the first item is a text for the head and a truth value for the container
    cases items with
    | nil => cases hheader
    | cons first rest => cases first <;> first | cases hheader | cases hprops
  | null | bool | int | float | str => cases hprops

/-! ## What is well formed -/

/-- Whether a document describes a node, whatever is in it: it has a head and the fields of the
kind that it names. -/
def wellFormed (j : Json) : Bool :=
  match Header.record.read j with
  | .error _ => false
  | .ok header =>
    if header.kind = "container" then (ContainerProps.record.read j).isOk
    else (leaf header.kind header.head j).isOk

theorem wellFormed_of_header (h : Header.record.read j = .ok header) :
    wellFormed j = if header.kind = "container" then (ContainerProps.record.read j).isOk
      else (leaf header.kind header.head j).isOk := by
  rw [wellFormed, h]

/-- The fields of every node. -/
def headFields : List String :=
  ["type", "id", "container_id", "local_id", "css", "attributes"]

/-- The fields of a container besides. -/
def containerFields : List String :=
  ["is_fragment_container", "fragment_id", "children"]

/-- The fields of a container as they have to be: no field is given twice, and the only ones that
can be of a wrong type are the mark of a fragment and the list of what is in it. -/
structure ContainerFields (members : Members) : Prop where
  once : ∀ name ∈ headFields ++ containerFields, (Record.keys members).count name ≤ 1
  flag : ∀ j, ("is_fragment_container", j) ∈ members → ∃ b, j = .bool b
  children : ∀ j, ("children", j) ∈ members → ∃ items, j = .arr items

theorem isOk_readText_iff : (readText j).isOk ↔ ∃ s, j = .str s := by
  cases j <;> simp [readText, Except.isOk, Except.toBool]

theorem isOk_readFlag_iff : (readFlag j).isOk ↔ ∃ b, j = .bool b := by
  cases j <;> simp [readFlag, Except.isOk, Except.toBool]

theorem isOk_readItems_iff : (readItems j).isOk ↔ ∃ items, j = .arr items := by
  cases j <;> simp [readItems, Except.isOk, Except.toBool]

/-- An id may be anything. -/
theorem isOk_readLenient : (readLenient j).isOk := rfl

theorem isOk_readStyle : (readStyle j).isOk := by
  cases j <;> rfl

/-- A head asks for a kind, and for no field twice. -/
theorem isOk_header_iff :
    (Header.record.read (.obj members)).isOk ↔
      (∀ name ∈ headFields, (Record.keys members).count name ≤ 1) ∧
      (∀ j, ("type", j) ∈ members → ∃ s, j = .str s) ∧ "type" ∈ Record.keys members := by
  rw [Record.isOk_read_obj_iff]
  · simp only [Header.record, headFields, List.forall_mem_cons,
      Field.name_mandatory, Field.name_optional, Field.isOk_mandatory, Field.isOk_optional,
      Field.required_mandatory, Field.required_optional, isOk_readText_iff, isOk_readLenient,
      isOk_readStyle]
    tauto
  · decide
  · simp [Record.Uniform, Header.record]

/-- A container asks for a mark that is a truth value, and for a list that is one. -/
theorem isOk_props_iff :
    (ContainerProps.record.read (.obj members)).isOk ↔
      (∀ name ∈ containerFields, (Record.keys members).count name ≤ 1) ∧
      (∀ j, ("is_fragment_container", j) ∈ members → ∃ b, j = .bool b) ∧
      ∀ j, ("children", j) ∈ members → ∃ items, j = .arr items := by
  rw [Record.isOk_read_obj_iff]
  · simp only [ContainerProps.record, containerFields, List.forall_mem_cons,
      Field.name_optional, Field.isOk_optional, Field.required_optional, isOk_readFlag_iff,
      isOk_readLenient, isOk_readItems_iff]
    tauto
  · decide
  · simp [Record.Uniform, ContainerProps.record]

/-- A document that names itself a container is well formed exactly if its own fields are. -/
theorem wellFormed_container_iff
    (htype : (Members.find? "type" members).bind Json.text? = some "container") :
    wellFormed (.obj members) ↔ ContainerFields members := by
  obtain ⟨j, hfind, htext⟩ := Option.bind_eq_some_iff.mp htype
  have hkey : "type" ∈ Record.keys members := Members.isSome_find?_iff.mp (by rw [hfind]; rfl)
  -- the head is read first, and the kind that it has is that of a container
  have hwell : wellFormed (.obj members) ↔
      (Header.record.read (.obj members)).isOk ∧ (ContainerProps.record.read (.obj members)).isOk := by
    cases hread : Header.record.read (.obj members) with
    | error e =>
      rw [wellFormed, hread]
      exact iff_of_false nofun fun h => absurd h.1 nofun
    | ok header =>
      have hkind : header.kind = "container" :=
        Option.some.inj ((typeName?_of_header hread).symm.trans htype)
      rw [wellFormed_of_header hread, if_pos hkind]
      exact (and_iff_right rfl).symm
  rw [hwell, isOk_header_iff, isOk_props_iff]
  constructor
  · rintro ⟨⟨hhead, -, -⟩, hprops, hflag, hchildren⟩
    exact ⟨List.forall_mem_append.mpr ⟨hhead, hprops⟩, hflag, hchildren⟩
  · rintro ⟨honce, hflag, hchildren⟩
    obtain ⟨hhead, hprops⟩ := List.forall_mem_append.mp honce
    refine ⟨⟨hhead, fun j' hj' => ?_, hkey⟩, hprops, hflag, hchildren⟩
    have hsame := Members.find?_eq_some_of_mem (hhead "type" List.mem_cons_self) hj'
    obtain rfl : j' = j := Option.some.inj (hsame.symm.trans hfind)
    exact ⟨_, Json.eq_str_of_text? htext⟩

/-! ## Leaves -/

/-- A leaf is of the kind that its document names. -/
theorem leaf_kind {kind : String} {head : NodeHead} {n : Node} (h : leaf kind head j = .ok n) :
    NodeKind.ofWire? kind = some n.kind ∧ n.kind ≠ .container := by
  unfold leaf at h
  split at h
  case h_13 => cases h
  all_goals
    simp only [Except.map] at h
    split at h
    · cases h
    · cases h
      exact ⟨rfl, nofun⟩

end Tree

end RemoteUi
