/-
# RemoteUi.Proofs.Tree.Identity — the identities in a tree.

The widgets and the groups of a tree have identities of two separate kinds; `widgetKeys` and
`groupKeys` list them in document order, and `options?` has the options of the group that comes
first under a key.  All of these go through the nodes of a tree one by one, so that they can be
taken apart at a container and at the end of a list.

An identity is the id of a node, or is put together from the names of its container and of its own
if it has none.  It may be missing, but it should not be empty: the empty text is what a widget
without identity is found under.  A tree that was read from a document is a container in which no id
is empty, whatever the document (`Fragment.ofJson_wellFormed`):

* an id that is given as a number is a text of at least one digit (`Json.numberText?_ne_empty`);
* an id that is given as an empty text is taken for none (`lenientText_ne_empty`);
* an identity that is put together has a slash in it (`NodeHead.identity_ne_empty`).

A fragment is named after its root (`Fragment.Rooted`); both properties are what the proofs about
screens ask of a tree.
-/
import RemoteUi.Tree.Shape

namespace RemoteUi

/-! ## Identities -/

/-- A head with an id, if any, and nothing else. -/
def NodeHead.ofId (id : Option String) : NodeHead := ⟨id, none, none, [], []⟩

/-- A button with an id, if any, and nothing else. -/
def Node.button (id : Option String) : Node :=
  .widget (.ofId id) (.button ⟨"", none, none, none⟩)

/-- The identity of a widget. -/
def Node.widgetKey? : Node → Option String
  | .widget head _ => head.identity
  | _ => none

/-- The identity of a group. -/
def Node.groupKey? : Node → Option String
  | .group head _ => head.identity
  | _ => none

/-- The key that a widget shows: its identity, empty if it has none. -/
def Node.shownKey? : Node → Option String
  | .widget head _ => some (head.identity.getD "")
  | _ => none

/-- The options of a described group. -/
def GroupSpec.options : GroupSpec → List String
  | .checkboxes options _ _ => options
  | .radio options _ => options

/-- The options of a group with an identity. -/
def Node.optionsOf? (key : String) : Node → Option (List String)
  | .group head spec => if head.identity = some key then some spec.options else none
  | _ => none

namespace Node

/-- The identities of the widgets in a list of trees, in document order. -/
def widgetKeys (ns : List Node) : List String :=
  (nodesOf ns).filterMap widgetKey?

/-- The identities of the groups in a list of trees, in document order. -/
def groupKeys (ns : List Node) : List String :=
  (nodesOf ns).filterMap groupKey?

/-- The keys that the widgets in a list of trees show, in document order. -/
def shownKeys (ns : List Node) : List String :=
  (nodesOf ns).filterMap shownKey?

/-- The options of the first group with an identity in a list of trees. -/
def options? (ns : List Node) (key : String) : Option (List String) :=
  (nodesOf ns).findSome? (optionsOf? key)

@[simp]
theorem nodesOf_append (ns ms : List Node) : nodesOf (ns ++ ms) = nodesOf ns ++ nodesOf ms := by
  induction ns with
  | nil => rfl
  | cons n rest ih => simp [nodesOf, ih]

theorem widgetKeys_append (ns ms : List Node) :
    widgetKeys (ns ++ ms) = widgetKeys ns ++ widgetKeys ms := by
  simp [widgetKeys]

theorem groupKeys_append (ns ms : List Node) :
    groupKeys (ns ++ ms) = groupKeys ns ++ groupKeys ms := by
  simp [groupKeys]

theorem shownKeys_append (ns ms : List Node) :
    shownKeys (ns ++ ms) = shownKeys ns ++ shownKeys ms := by
  simp [shownKeys]

theorem options?_append (ns ms : List Node) (key : String) :
    options? (ns ++ ms) key = (options? ns key).or (options? ms key) := by
  simp [options?, List.findSome?_append]

section Container

variable (head : NodeHead) (own : Option String) (ns : List Node)

theorem widgetKeys_container : widgetKeys [.container head own ns] = widgetKeys ns := by
  simp only [widgetKeys, nodesOf, nodes, List.append_nil]
  rfl

theorem groupKeys_container : groupKeys [.container head own ns] = groupKeys ns := by
  simp only [groupKeys, nodesOf, nodes, List.append_nil]
  rfl

theorem shownKeys_container : shownKeys [.container head own ns] = shownKeys ns := by
  simp only [shownKeys, nodesOf, nodes, List.append_nil]
  rfl

theorem options?_container (key : String) :
    options? [.container head own ns] key = options? ns key := by
  simp only [options?, nodesOf, nodes, List.append_nil]
  rfl

end Container

theorem mem_widgetKeys_widget {head : NodeHead} {spec : WidgetSpec} {key : String} :
    key ∈ widgetKeys [.widget head spec] ↔ head.identity = some key := by
  simp [widgetKeys, nodesOf, nodes, widgetKey?]

theorem mem_groupKeys_group {head : NodeHead} {spec : GroupSpec} {key : String} :
    key ∈ groupKeys [.group head spec] ↔ head.identity = some key := by
  simp [groupKeys, nodesOf, nodes, groupKey?]

/-- The nodes of a list of trees are those of its trees. -/
theorem mem_nodesOf {m : Node} {ns : List Node} : m ∈ nodesOf ns ↔ ∃ n ∈ ns, m ∈ n.nodes := by
  induction ns with
  | nil => simp [nodesOf]
  | cons n rest ih => simp [nodesOf, ih]

/-- The keys that are shown are the identities, but for the empty one. -/
theorem filter_shownKeys (ns : List Node) :
    (shownKeys ns).filter (· ≠ "") = (widgetKeys ns).filter (· ≠ "") := by
  unfold shownKeys widgetKeys
  induction nodesOf ns with
  | nil => rfl
  | cons n rest ih =>
    cases n with
    | widget head spec =>
      cases hid : head.identity with
      | none => simpa [shownKey?, widgetKey?, hid] using ih
      | some key =>
        have hshown : shownKey? (.widget head spec) = some key := by simp [shownKey?, hid]
        have hkey : widgetKey? (.widget head spec) = some key := hid
        rw [List.filterMap_cons_some hshown, List.filterMap_cons_some hkey, List.filter_cons,
          List.filter_cons, ih]
    | markup | group | container => exact ih

theorem isSome_optionsOf?_iff {n : Node} {key : String} :
    (n.optionsOf? key).isSome ↔ n.groupKey? = some key := by
  cases n with
  | group head spec =>
    show (if head.identity = some key then some spec.options else none).isSome ↔
      head.identity = some key
    split <;> simp [*]
  | markup | widget | container => simp [optionsOf?, groupKey?]

/-- A tree has options for the groups that it has. -/
theorem isSome_options?_iff {ns : List Node} {key : String} :
    (options? ns key).isSome ↔ key ∈ groupKeys ns := by
  simp only [options?, groupKeys, List.findSome?_isSome_iff, List.mem_filterMap,
    isSome_optionsOf?_iff]

end Node

namespace Fragment

/-- The identities of the widgets in a fragment, in document order. -/
def widgetKeys (f : Fragment) : List String :=
  Node.widgetKeys [f.root]

/-- The identities of the groups in a fragment, in document order. -/
def groupKeys (f : Fragment) : List String :=
  Node.groupKeys [f.root]

/-- The options of the first group with an identity in a fragment. -/
def options? (f : Fragment) (key : String) : Option (List String) :=
  Node.options? [f.root] key

/-- What reading a document makes sure of: the root is a container, and no id is empty. -/
structure WellFormed (f : Fragment) : Prop where
  container : ∃ head fragmentId children, f.root = .container head fragmentId children
  named : ∀ n ∈ f.root.nodes, n.head.id ≠ some ""

/-- A fragment has the id of its root, or the empty one if the root carries none. -/
def Rooted (f : Fragment) : Prop :=
  ∃ head own children, f.root = .container head own children ∧ f.id = own.getD ""

end Fragment

theorem Fragment.options?_eq_none_iff {f : Fragment} {key : String} :
    f.options? key = none ↔ key ∉ f.groupKeys := by
  rw [← Option.not_isSome_iff_eq_none]
  exact not_congr Node.isSome_options?_iff

theorem NodeHead.identity_ne_empty {h : NodeHead} (hid : h.id ≠ some "") :
    h.identity ≠ some "" := by
  unfold identity
  split
  · rename_i id heq
    exact heq ▸ hid
  · split
    · rename_i c l _ _
      intro heq
      have hlen := congrArg String.length (Option.some.inj heq)
      simp only [String.length_append] at hlen
      have : "/".length = 1 := rfl
      have : "".length = 0 := rfl
      omega
    · exact nofun

/-- No widget of a well-formed tree has the empty identity. -/
theorem Fragment.WellFormed.ne_empty_of_mem {f : Fragment} (hf : f.WellFormed) {key : String}
    (hkey : key ∈ f.widgetKeys) : key ≠ "" := by
  rintro rfl
  obtain ⟨n, hn, hkey⟩ := List.mem_filterMap.mp hkey
  have hid : n.head.id ≠ some "" := hf.named n (by simpa [Node.nodesOf] using hn)
  cases n with
  | widget head spec => exact NodeHead.identity_ne_empty hid hkey
  | markup | group | container => simp [Node.widgetKey?] at hkey

theorem Fragment.WellFormed.filter_widgetKeys {f : Fragment} (hf : f.WellFormed) :
    f.widgetKeys.filter (· ≠ "") = f.widgetKeys := by
  apply List.filter_eq_self.mpr
  intro key hkey
  simpa using hf.ne_empty_of_mem hkey

/-! ## Trees that are read -/

/-- A number has a digit. -/
theorem Json.decimalText_ne_nil (d : Decimal.Digits) : Json.decimalText d ≠ [] := by
  simp only [Json.decimalText]
  split
  · split
    · simp
    · split <;> simp
  · simp

theorem Json.doubleText_ne_empty (x : Float) : Json.doubleText x ≠ "" := by
  intro h
  have hnil := congrArg String.toList h
  simp only [Json.doubleText, String.toList_ofList] at hnil
  obtain ⟨-, hnil⟩ := List.append_eq_nil_iff.mp hnil
  split at hnil
  · cases hnil
  · exact Json.decimalText_ne_nil _ hnil

/-- The text of a number is not empty. -/
theorem Json.numberText?_ne_empty (j : Json) : j.numberText? ≠ some "" := by
  intro h
  cases j with
  | int i =>
    have hrepr : i.repr = "" := Option.some.inj h
    rw [Int.repr_eq_if] at hrepr
    split at hrepr
    · exact Nat.repr_ne_empty hrepr
    · exact absurd (congrArg String.toList hrepr) (by simp)
  | float x => exact Json.doubleText_ne_empty x (Option.some.inj h)
  | null | bool | str | arr | obj => cases h

namespace Tree

/-- Whatever is given for an id, what is read is not empty. -/
theorem lenientText_ne_empty (j : Json) : lenientText j ≠ some "" := by
  unfold lenientText
  split
  · split
    · exact nofun
    · rename_i hne
      exact fun heq => hne (Option.some.inj heq)
  · exact Json.numberText?_ne_empty _

/-- A head that is read has no empty id. -/
theorem header_id_ne_empty {j : Json} {h : Header} (hread : Header.record.read j = .ok h) :
    h.head.id ≠ some "" := by
  refine Json.Record.read_keeps (P := fun h : Header => h.head.id ≠ some "") ?_ ?_ hread
  case refine_2 => exact fun h => nomatch (h : none = some "")
  intro f hf j s s' hs hput
  simp only [Header.record, List.mem_cons, List.not_mem_nil, or_false] at hf
  -- only the second field writes the id
  rcases hf with rfl | rfl | rfl | rfl | rfl | rfl <;>
    simp only [Json.Field.optional, Json.Field.mandatory, Except.map] at hput <;>
    split at hput <;> cases hput
  · exact hs
  · rename_i a ha
    cases ha
    exact lenientText_ne_empty j
  all_goals exact hs

/-- A leaf has the head that was read for it, and nothing in it. -/
theorem leaf_eq {kind : String} {head : NodeHead} {j : Json} {n : Node}
    (h : leaf kind head j = .ok n) : n.head = head ∧ n.nodes = [n] := by
  unfold leaf at h
  split at h
  case h_13 => cases h
  all_goals
    simp only [Except.map] at h
    split at h
    · cases h
    · cases h
      exact ⟨rfl, rfl⟩

/-- A document is read as a leaf, or as a container of what the documents in it are read as. -/
theorem shape_node {depth : Nat} {path : String} {j : Json} {n : Node}
    (h : (shape depth path j).node = some n) :
    (∃ header, Header.record.read j = .ok header ∧ n.head = header.head) ∧
      (n.nodes = [n] ∨ ∃ d head own children, depth = d + 1 ∧ n = .container head own children ∧
        ∀ c ∈ children, ∃ path j, (shape d path j).node = some c) := by
  unfold shape at h
  split at h
  · cases h
  · rename_i header hheader
    split at h
    · cases h
    · split at h
      · cases h
      · split at h
        · cases h
          exact ⟨⟨header, hheader, rfl⟩, Or.inl rfl⟩
        · rename_i d
          cases h
          refine ⟨⟨header, hheader, rfl⟩, Or.inr ⟨d, _, _, _, rfl, rfl, ?_⟩⟩
          intro c hc
          obtain ⟨shaped, hshaped, hnode⟩ := List.mem_filterMap.mp hc
          obtain ⟨p, -, rfl⟩ := List.mem_map.mp hshaped
          exact ⟨_, _, hnode⟩
    · split at h
      · cases h
      · rename_i leaf hleaf
        cases h
        exact ⟨⟨header, hheader, (leaf_eq hleaf).1⟩, Or.inl (leaf_eq hleaf).2⟩

/-- A node that is read has no empty id. -/
theorem shape_head_named {depth : Nat} {path : String} {j : Json} {n : Node}
    (h : (shape depth path j).node = some n) : n.head.id ≠ some "" := by
  obtain ⟨⟨header, hheader, hhead⟩, -⟩ := shape_node h
  rw [hhead]
  exact header_id_ne_empty hheader

/-- No node of a tree that is read has an empty id. -/
theorem shape_named {depth : Nat} {path : String} {j : Json} {n : Node}
    (h : (shape depth path j).node = some n) : ∀ m ∈ n.nodes, m.head.id ≠ some "" := by
  induction depth generalizing path j n with
  | zero =>
    intro m hm
    obtain ⟨-, hnodes | ⟨d, _, _, _, hd, -⟩⟩ := shape_node h
    · rw [hnodes, List.mem_singleton] at hm
      exact hm ▸ shape_head_named h
    · cases hd
  | succ depth ih =>
    intro m hm
    obtain ⟨-, hnodes | ⟨d, head, own, children, hd, rfl, hall⟩⟩ := shape_node h
    · rw [hnodes, List.mem_singleton] at hm
      exact hm ▸ shape_head_named h
    · obtain rfl : depth = d := Nat.succ.inj hd
      -- the container itself, or a node in one of its trees
      rcases List.mem_cons.mp hm with rfl | hm
      · exact shape_head_named h
      · obtain ⟨c, hc, hm⟩ := Node.mem_nodesOf.mp hm
        obtain ⟨path, j, hshape⟩ := hall c hc
        exact ih hshape m hm

end Tree

/-- A fragment that is read is well formed. -/
theorem Fragment.ofJson_wellFormed {root : Json} {parsed : ParsedFragment}
    (h : Fragment.ofJson root = .ok parsed) : parsed.fragment.WellFormed := by
  simp only [ofJson] at h
  split at h
  · cases h
  · split at h
    · rename_i head own children hnode
      cases h
      exact ⟨⟨head, own, children, rfl⟩, Tree.shape_named hnode⟩
    · cases h

/-- A fragment that is read is named after its root. -/
theorem Fragment.ofJson_rooted {root : Json} {parsed : ParsedFragment}
    (h : Fragment.ofJson root = .ok parsed) : parsed.fragment.Rooted := by
  simp only [ofJson] at h
  split at h
  · cases h
  · split at h
    · rename_i head own children hnode
      cases h
      exact ⟨head, own, children, rfl, rfl⟩
    · cases h

end RemoteUi
