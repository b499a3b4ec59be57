/-
# RemoteUi.Proofs.Tree.Naming — when two names are spelled the same.

A node is named by the id that the server gave it, or else by its place: the container that it is
in, and its id there.  The identity of a node is its name as it is spelled, and a spelling tells
neither where a place is parted nor a place from an id.

* `Name.Clashes` lists the ways in which different names are spelled the same: an id reads like a
  place, or a place is parted earlier or later than another.  `Name.spelled_eq_iff` says that there
  are no others.  Two places that are spelled the same are compared by which container is the longer
  one (`place_eq_or_clashes`).
* Where all names are distinct, then, no identity occurs twice if no names clash, and only then
  (`Fragment.Distinct.keys_nodup_iff`).  Widgets are compared with widgets and groups with groups,
  as they are registered apart.
* It is enough that ids and containers have no separator in them (`unambiguous_of_plain`); the local
  id of a place may have some.

Distinctness is said of ids and of places, each for itself (`Fragment.Distinct`).  That a node
without id lacks the container or the local id is no clash; it has no name at all.
-/
import Mathlib.Data.List.Nodup
import RemoteUi.Proofs.Tree.Identity

namespace RemoteUi

/-! ## Names -/

/-- What a node is named by. -/
inductive Name where
  | given (id : String)
  | place (containerId localId : String)
  deriving DecidableEq

namespace Name

/-- A name in one text. -/
def spelled : Name → String
  | .given id => id
  | .place c l => c ++ "/" ++ l

/-- Different names that are spelled the same: an id may read like a place, and a place may be parted
earlier or later. -/
inductive Clashes : Name → Name → Prop where
  | givenPlace (c l : String) : Clashes (.given (c ++ "/" ++ l)) (.place c l)
  | placeGiven (c l : String) : Clashes (.place c l) (.given (c ++ "/" ++ l))
  | earlier (c m l : String) : Clashes (.place c (m ++ "/" ++ l)) (.place (c ++ "/" ++ m) l)
  | later (c m l : String) : Clashes (.place (c ++ "/" ++ m) l) (.place c (m ++ "/" ++ l))

variable {n m : Name}

/-- What clashes with a name has that name clash with it. -/
theorem Clashes.symm (h : n.Clashes m) : m.Clashes n := by
  cases h with
  | givenPlace c l => exact .placeGiven c l
  | placeGiven c l => exact .givenPlace c l
  | earlier c m l => exact .later c m l
  | later c m l => exact .earlier c m l

/-- Names that clash are spelled the same. -/
theorem Clashes.spelled_eq (h : n.Clashes m) : n.spelled = m.spelled := by
  cases h with
  | givenPlace | placeGiven => rfl
  | earlier c m l | later c m l =>
    show _ ++ "/" ++ _ = _ ++ "/" ++ _
    simp only [String.append_assoc]

/-- Names that clash are different. -/
theorem Clashes.ne (h : n.Clashes m) : n ≠ m := by
  intro heq
  cases h with
  | givenPlace | placeGiven => cases heq
  | earlier c m l | later c m l =>
    have hlength := congrArg (fun n : Name => match n with
      | .given _ => 0
      | .place c _ => c.length) heq
    have hseparator : "/".length = 1 := rfl
    simp only [String.length_append, hseparator] at hlength
    omega

/-- Where a place goes on after the container of another, the rest is in the other's local id. -/
theorem place_eq_or_clashes {c l c' l' : String} {rest : List Char}
    (hc : c'.toList = c.toList ++ rest) (hl : '/' :: l.toList = rest ++ '/' :: l'.toList) :
    place c l = place c' l' ∨ (place c l).Clashes (place c' l') := by
  cases rest with
  | nil =>
    rw [List.append_nil, String.toList_inj] at hc
    rw [List.nil_append, List.cons.injEq, String.toList_inj] at hl
    exact Or.inl (hc ▸ hl.2 ▸ rfl)
  | cons x m =>
    rw [List.cons_append, List.cons.injEq] at hl
    obtain ⟨rfl, hl⟩ := hl
    have hcontainer : c' = c ++ "/" ++ String.ofList m := by
      rw [← String.toList_inj, hc]
      simp
    have hlocal : l = String.ofList m ++ "/" ++ l' := by
      rw [← String.toList_inj, hl]
      simp
    subst hcontainer hlocal
    exact Or.inr (.earlier c (String.ofList m) l')

/-- There is no other way for different names to be spelled the same. -/
theorem spelled_eq_iff : n.spelled = m.spelled ↔ n = m ∨ n.Clashes m := by
  refine ⟨fun h => ?_, fun h => h.elim (congrArg spelled) Clashes.spelled_eq⟩
  cases n with
  | given a =>
    cases m with
    | given b => exact Or.inl (congrArg given h)
    | place c l =>
      obtain rfl : a = c ++ "/" ++ l := h
      exact Or.inr (.givenPlace c l)
  | place c l =>
    cases m with
    | given b =>
      obtain rfl : c ++ "/" ++ l = b := h
      exact Or.inr (.placeGiven c l)
    | place c' l' =>
      have htext : c.toList ++ '/' :: l.toList = c'.toList ++ '/' :: l'.toList := by
        have hlist := congrArg String.toList (show c ++ "/" ++ l = c' ++ "/" ++ l' from h)
        simpa using hlist
      rcases List.append_eq_append_iff.mp htext with ⟨rest, hc, hl⟩ | ⟨rest, hc, hl⟩
      · exact place_eq_or_clashes hc hl
      · exact (place_eq_or_clashes hc hl).imp Eq.symm Clashes.symm

/-- Distinct names are spelled apart as far as none clash. -/
theorem nodup_map_spelled_iff {names : List Name} (h : names.Nodup) :
    (names.map spelled).Nodup ↔ ∀ n ∈ names, ∀ m ∈ names, ¬ n.Clashes m := by
  rw [List.nodup_map_iff_inj_on h]
  refine forall₂_congr fun n _ => forall₂_congr fun m _ => ?_
  rw [spelled_eq_iff]
  exact ⟨fun heq hclash => hclash.ne (heq (Or.inr hclash)), fun hno heq => heq.resolve_right hno⟩

/-- The name has no separator in an id that was given, nor in the container of a place. -/
def Plain : Name → Prop
  | .given id => '/' ∉ id.toList
  | .place c _ => '/' ∉ c.toList

/-- Of two names that clash one has a separator. -/
theorem Clashes.not_plain (h : n.Clashes m) (hn : n.Plain) : ¬ m.Plain := by
  cases h with
  | givenPlace c l => exact absurd (by simp) hn
  | later c m l => exact absurd (by simp) hn
  | placeGiven c l => exact fun hm => hm (by simp)
  | earlier c m l => exact fun hm => hm (by simp)

end Name

/-! ## The names in a tree -/

/-- The place of a node that has no id. -/
def NodeHead.place? (h : NodeHead) : Option (String × String) :=
  match h.id, h.containerId, h.localId with
  | none, some c, some l => some (c, l)
  | _, _, _ => none

/-- The name of a node, if it has one. -/
def NodeHead.name? (h : NodeHead) : Option Name :=
  match h.id with
  | some id => some (.given id)
  | none => h.place?.map fun p => .place p.1 p.2

namespace NodeHead

variable {h : NodeHead}

theorem id_of_name? {id : String} (hname : h.name? = some (.given id)) : h.id = some id := by
  unfold name? at hname
  split at hname
  · rename_i id' hid
    cases hname
    exact hid
  · obtain ⟨p, -, hp⟩ := Option.map_eq_some_iff.mp hname
    cases hp

theorem place?_of_name? {c l : String} (hname : h.name? = some (.place c l)) :
    h.place? = some (c, l) := by
  unfold name? at hname
  split at hname
  · cases hname
  · obtain ⟨p, hplace, hp⟩ := Option.map_eq_some_iff.mp hname
    cases hp
    exact hplace

variable (h) in
theorem identity_eq : h.identity = h.name?.map Name.spelled := by
  obtain ⟨id, containerId, localId, style, attributes⟩ := h
  cases id with
  | some id => rfl
  | none => cases containerId <;> cases localId <;> rfl

end NodeHead

namespace Node

/-- The name of a widget. -/
def widgetName? : Node → Option Name
  | .widget head _ => head.name?
  | _ => none

/-- The name of a group. -/
def groupName? : Node → Option Name
  | .group head _ => head.name?
  | _ => none

theorem name?_of_widgetName? {n : Node} {name : Name} (h : n.widgetName? = some name) :
    n.head.name? = some name := by
  cases n with
  | widget head spec => exact h
  | markup | group | container => cases h

theorem name?_of_groupName? {n : Node} {name : Name} (h : n.groupName? = some name) :
    n.head.name? = some name := by
  cases n with
  | group head spec => exact h
  | markup | widget | container => cases h

theorem widgetKey?_eq (n : Node) : n.widgetKey? = n.widgetName?.map Name.spelled := by
  cases n with
  | widget head spec => exact head.identity_eq
  | markup | group | container => rfl

theorem groupKey?_eq (n : Node) : n.groupKey? = n.groupName?.map Name.spelled := by
  cases n with
  | group head spec => exact head.identity_eq
  | markup | widget | container => rfl

end Node

namespace Fragment

variable (f : Fragment)

/-- The names of the widgets, in document order. -/
def widgetNames : List Name :=
  f.root.nodes.filterMap Node.widgetName?

/-- The names of the groups, in document order. -/
def groupNames : List Name :=
  f.root.nodes.filterMap Node.groupName?

/-- No two nodes were given one id, and no two others have one place. -/
structure Distinct : Prop where
  ids : (f.root.nodes.filterMap fun n => n.head.id).Nodup
  places : (f.root.nodes.filterMap fun n => n.head.place?).Nodup

/-- No two widgets have names that are spelled the same, and no two groups have. -/
structure Unambiguous : Prop where
  widgets : ∀ n ∈ f.widgetNames, ∀ m ∈ f.widgetNames, ¬ n.Clashes m
  groups : ∀ n ∈ f.groupNames, ∀ m ∈ f.groupNames, ¬ n.Clashes m

/-- The identities of the widgets are their names as they are spelled. -/
theorem widgetKeys_eq : f.widgetKeys = f.widgetNames.map Name.spelled := by
  rw [widgetKeys, Node.widgetKeys, Node.nodesOf, Node.nodesOf, List.append_nil, widgetNames,
    List.map_filterMap]
  exact List.filterMap_congr fun n _ => n.widgetKey?_eq

theorem groupKeys_eq : f.groupKeys = f.groupNames.map Name.spelled := by
  rw [groupKeys, Node.groupKeys, Node.nodesOf, Node.nodesOf, List.append_nil, groupNames,
    List.map_filterMap]
  exact List.filterMap_congr fun n _ => n.groupKey?_eq

variable {f}

/-- Where ids and places are distinct, names are. -/
theorem Distinct.names_nodup (h : f.Distinct) :
    (f.root.nodes.filterMap fun n => n.head.name?).Nodup := by
  have hboth := (List.pairwise_filterMap.mp h.ids).and (List.pairwise_filterMap.mp h.places)
  refine List.pairwise_filterMap.mpr (hboth.imp ?_)
  rintro n m ⟨hids, hplaces⟩ name hn _ hm rfl
  cases name with
  | given id => exact hids id (NodeHead.id_of_name? hn) id (NodeHead.id_of_name? hm) rfl
  | place c l =>
    exact hplaces (c, l) (NodeHead.place?_of_name? hn) (c, l) (NodeHead.place?_of_name? hm) rfl

/-- Where all names are distinct, no identity occurs twice among the widgets, nor among the groups, if
and only if no names of one sort clash. -/
theorem Distinct.keys_nodup_iff (h : f.Distinct) :
    f.widgetKeys.Nodup ∧ f.groupKeys.Nodup ↔ f.Unambiguous := by
  have hsome : ∀ name? : Node → Option Name,
      (∀ {n name}, name? n = some name → n.head.name? = some name) →
        (f.root.nodes.filterMap name?).Nodup := fun name? hname =>
    List.pairwise_filterMap.mpr ((List.pairwise_filterMap.mp h.names_nodup).imp
      fun hne n hn m hm => hne n (hname hn) m (hname hm))
  have hwidgets : f.widgetNames.Nodup := hsome _ Node.name?_of_widgetName?
  have hgroups : f.groupNames.Nodup := hsome _ Node.name?_of_groupName?
  rw [widgetKeys_eq, groupKeys_eq, Name.nodup_map_spelled_iff hwidgets,
    Name.nodup_map_spelled_iff hgroups]
  exact ⟨fun h => ⟨h.1, h.2⟩, fun h => ⟨h.widgets, h.groups⟩⟩

/-- No names clash where no id and no container has a separator. -/
theorem unambiguous_of_plain (h : ∀ n ∈ f.root.nodes, ∀ name, n.head.name? = some name → name.Plain) :
    f.Unambiguous where
  widgets := fun n hn m hm hclash => by
    obtain ⟨x, hx, hn⟩ := List.mem_filterMap.mp hn
    obtain ⟨y, hy, hm⟩ := List.mem_filterMap.mp hm
    exact hclash.not_plain (h x hx n (Node.name?_of_widgetName? hn))
      (h y hy m (Node.name?_of_widgetName? hm))
  groups := fun n hn m hm hclash => by
    obtain ⟨x, hx, hn⟩ := List.mem_filterMap.mp hn
    obtain ⟨y, hy, hm⟩ := List.mem_filterMap.mp hm
    exact hclash.not_plain (h x hx n (Node.name?_of_groupName? hn))
      (h y hy m (Node.name?_of_groupName? hm))

end Fragment

end RemoteUi
