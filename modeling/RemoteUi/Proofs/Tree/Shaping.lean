/-
# RemoteUi.Proofs.Tree.Shaping — what becomes of the documents in a tree.

A tree comes as a document, and whatever in it cannot be used is left out and reported, so that the
rest can still be shown.  This is where it is said that nothing gets lost on the way: every document
in the tree is either a node or a report, never both, and never more than once.

A document is left out, is a leaf, or is a container, and the document alone decides which
(`Nature`).  From this follow what it is shaped to, which depends on nothing around it
(`node_shape`), and, by induction, what becomes of all documents below it: those that are well
formed are the nodes of the tree, each of the others is reported once, both in document order
(`accounted`).

* A *position* is the way down to a document: an index for every container on it.  `visits` lists
  all documents that are looked at, with their positions, in document order (`pairwise_visits`), and
  it lists exactly those that there are (`mem_visits_iff`).
* The induction is on how deep documents nest, which is the fuel of shaping as well.  A container is
  accounted for if the documents in it are (`accounted_container`): two lists that correspond within
  every one of them correspond as a whole (`forall₂_visits`).
* A report names its document by a path.  Documents at different positions have different paths
  (`pathOf_injective`), as the digits of an index hold no slash, so a path is reported exactly once.

For the root it is different: it is not left out but refused, either for the kind that it names or
for its fields (`Outcome`).  Both together are `Fragment.ofJson_accounts`.
-/
import Mathlib.Data.List.Forall2
import RemoteUi.Proofs.Tree.Fields
import RemoteUi.Proofs.Upload.Address

namespace RemoteUi

/-- The path that a diagnostic of a node names. -/
def Diagnostic.path? : Diagnostic → Option String
  | .unknownKind _ path => some path
  | .malformedNode _ path _ => some path
  | _ => none

namespace Json

/-- The kind of node that a document names. -/
def kind? (j : Json) : Option NodeKind :=
  j.typeName?.bind NodeKind.ofWire?

variable {j c : Json}

theorem depth_le_depthItems {items : List Json} (h : j ∈ items) : j.depth ≤ depthItems items := by
  induction items with
  | nil => cases h
  | cons first rest ih =>
    rw [depthItems]
    rcases List.mem_cons.mp h with rfl | h
    · exact Nat.le_max_left _ _
    · exact Nat.le_trans (ih h) (Nat.le_max_right _ _)

theorem depth_le_depthMembers {members : Members} {name : String}
    (h : Members.find? name members = some j) : j.depth ≤ depthMembers members := by
  induction members with
  | nil => cases h
  | cons m rest ih =>
    rw [Members.find?] at h
    rw [depthMembers]
    split at h
    · cases h
      exact Nat.le_max_left _ _
    · exact Nat.le_trans (ih h) (Nat.le_max_right _ _)

/-- What is in a container nests less deep than the container. -/
theorem depth_lt_of_mem_children (h : c ∈ j.children) : c.depth < j.depth := by
  cases j with
  | obj members =>
    rw [children, get?] at h
    cases hfind : Members.find? "children" members with
    | none =>
      rw [hfind] at h
      cases h
    | some list =>
      rw [hfind] at h
      cases list with
      | arr items =>
        have hc : c.depth ≤ depthItems items := depth_le_depthItems h
        have hlist : depthItems items + 1 ≤ depthMembers members := depth_le_depthMembers hfind
        show c.depth < depthMembers members + 1
        omega
      | null | bool | int | float | str | obj => cases h
  | null | bool | int | float | str | arr => cases h

end Json

namespace Tree

variable {j c : Json} {d : Nat} {path : String}

/-! ## One document -/

/-- What the documents in a container are shaped to. -/
def inside (d : Nat) (path : String) (j : Json) : List Shaped :=
  j.children.zipIdx.map fun c => shape d (childPath path c.2) c.1

/-- What a document is, wherever it stands and whatever is in it. -/
inductive Nature (j : Json) : Prop where
  /-- It is left out, and reported with its path. -/
  | dropped (report : String → Diagnostic) (ill : wellFormed j = false)
      (placed : ∀ path, (report path).path? = some path)
      (shaped : ∀ d path, shape d path j = .dropped (report path))
  /-- It is a leaf of the kind that it names. -/
  | leaf (n : Node) (well : wellFormed j = true) (kind : j.kind? = some n.kind)
      (bare : n.kind ≠ .container) (shaped : ∀ d path, shape d path j = ⟨some n, []⟩)
  /-- It is a container of what is made of the documents in it. -/
  | container (head : NodeHead) (own : Option String) (well : wellFormed j = true)
      (named : j.typeName? = some "container") (deep : 0 < j.depth)
      (shaped : ∀ d path, shape (d + 1) path j =
        ⟨some (.container head own ((inside d path j).filterMap Shaped.node)),
          (inside d path j).flatMap Shaped.diagnostics⟩)

section Shape

variable {header : Header} {props : ContainerProps} {kind : NodeKind} {e : Json.Mismatch}

/-- The header of the document cannot be read. -/
theorem shape_of_error (hread : Header.record.read j = .error e) :
    shape d path j = .dropped (.malformedNode "<unknown>" path (e.message .value)) := by
  unfold shape
  simp only [hread]

/-- The kind that it names is none that is known. -/
theorem shape_of_unknown (hread : Header.record.read j = .ok header)
    (hkind : NodeKind.ofWire? header.kind = none) :
    shape d path j = .dropped (.unknownKind header.kind path) := by
  unfold shape
  simp only [hread, hkind]

/-- It is a container of which the fields cannot be read. -/
theorem shape_of_container_error (hread : Header.record.read j = .ok header)
    (hkind : NodeKind.ofWire? header.kind = some .container)
    (hprops : ContainerProps.record.read j = .error e) :
    shape d path j = .dropped (.malformedNode header.kind path (e.message .value)) := by
  unfold shape
  simp only [hread, hkind, hprops]

theorem shape_of_container (hread : Header.record.read j = .ok header)
    (hkind : NodeKind.ofWire? header.kind = some .container)
    (hprops : ContainerProps.record.read j = .ok props) (hchildren : props.children = j.children) :
    shape (d + 1) path j =
      ⟨some (.container header.head props.fragment ((inside d path j).filterMap Shaped.node)),
        (inside d path j).flatMap Shaped.diagnostics⟩ := by
  rw [inside, ← hchildren]
  conv_lhs => unfold shape
  simp only [hread, hkind, hprops]

/-- It is a leaf of which the fields cannot be read. -/
theorem shape_of_leaf_error (hread : Header.record.read j = .ok header)
    (hkind : NodeKind.ofWire? header.kind = some kind) (hne : kind ≠ .container)
    (hleaf : leaf header.kind header.head j = .error e) :
    shape d path j = .dropped (.malformedNode header.kind path (e.message .value)) := by
  unfold shape
  simp only [hread, hkind, hleaf]

theorem shape_of_leaf {n : Node} (hread : Header.record.read j = .ok header)
    (hkind : NodeKind.ofWire? header.kind = some kind) (hne : kind ≠ .container)
    (hleaf : leaf header.kind header.head j = .ok n) : shape d path j = ⟨some n, []⟩ := by
  unfold shape
  simp only [hread, hkind, hleaf]

end Shape

/-- There are no other ways.  The cases are those in which shaping proceeds: the header, the kind,
and then the fields of that kind. -/
theorem nature (j : Json) : Nature j := by
  cases hread : Header.record.read j with
  | error e =>
    exact .dropped _ (by rw [wellFormed, hread]) (fun _ => rfl) fun _ _ => shape_of_error hread
  | ok header =>
    have htype := typeName?_of_header hread
    have hwell := wellFormed_of_header hread
    have hname : NodeKind.ofWire? header.kind = some .container ↔ header.kind = "container" :=
      NodeKind.ofWire?_eq_container_iff
    cases hkind : NodeKind.ofWire? header.kind with
    | none =>
      have hne : header.kind ≠ "container" := by
        intro h
        cases hkind.symm.trans (hname.mpr h)
      rw [if_neg hne] at hwell
      refine .dropped _ ?_ (fun _ => rfl) fun _ _ => shape_of_unknown hread hkind
      rw [hwell]
      cases hleaf : leaf header.kind header.head j with
      | error e => rfl
      | ok n => cases hkind.symm.trans (leaf_kind hleaf).1
    | some kind =>
      by_cases hcontainer : kind = .container
      · subst hcontainer
        rw [if_pos (hname.mp hkind)] at hwell
        cases hprops : ContainerProps.record.read j with
        | error e =>
          rw [hprops] at hwell
          exact .dropped _ hwell (fun _ => rfl) fun _ _ => shape_of_container_error hread hkind hprops
        | ok props =>
          rw [hprops] at hwell
          obtain ⟨⟨members, rfl⟩, hchildren⟩ := children_of_props hread hprops
          exact .container _ _ hwell (hname.mp hkind ▸ htype) (Nat.succ_pos _)
            fun _ _ => shape_of_container hread hkind hprops hchildren
      · rw [if_neg fun h => hcontainer (Option.some.inj (hkind.symm.trans (hname.mpr h)))] at hwell
        cases hleaf : leaf header.kind header.head j with
        | error e =>
          rw [hleaf] at hwell
          exact .dropped _ hwell (fun _ => rfl)
            fun _ _ => shape_of_leaf_error hread hkind hcontainer hleaf
        | ok n =>
          rw [hleaf] at hwell
          obtain ⟨hn, hbare⟩ := leaf_kind hleaf
          have hnamed : j.kind? = some n.kind := by
            rw [Json.kind?, htype]
            exact hn
          exact .leaf n hwell hnamed hbare fun _ _ => shape_of_leaf hread hkind hcontainer hleaf

/-- The nodes made of what is in a container do not depend on where it stands either. -/
theorem filterMap_inside {f : Json → Option Node}
    (h : ∀ c ∈ j.children, ∀ path, (shape d path c).node = f c) :
    (inside d path j).filterMap Shaped.node = j.children.filterMap f := by
  have hnode : ∀ c ∈ j.children.zipIdx,
      (Shaped.node ∘ fun c => shape d (childPath path c.2) c.1) c = (f ∘ Prod.fst) c :=
    fun c hc => h c.1 (List.fst_mem_of_mem_zipIdx hc) _
  rw [inside, List.filterMap_map, List.filterMap_congr hnode, ← List.filterMap_map,
    List.zipIdx_map_fst]

/-- What a document is shaped to does not depend on where it stands. -/
theorem node_shape {j : Json} {d d' : Nat} {path path' : String} (h : j.depth ≤ d)
    (h' : j.depth ≤ d') :
    (shape d path j).node = (shape d' path' j).node := by
  cases nature j with
  | dropped report ill placed shaped =>
    rw [shaped, shaped]
    rfl
  | leaf n well kind bare shaped => rw [shaped, shaped]
  | container head own well named deep shaped =>
    obtain ⟨d, rfl⟩ := Nat.exists_eq_succ_of_ne_zero (Nat.ne_of_gt (Nat.lt_of_lt_of_le deep h))
    obtain ⟨d', rfl⟩ := Nat.exists_eq_succ_of_ne_zero (Nat.ne_of_gt (Nat.lt_of_lt_of_le deep h'))
    -- the documents in it are shaped alike, on either side and under any path
    have hsame : ∀ c ∈ j.children, ∀ path,
        (shape d path c).node = (shape d' "root" c).node := fun c hc _ => by
      have hdeep := Json.depth_lt_of_mem_children hc
      exact node_shape (by omega) (by omega)
    have hsame' : ∀ c ∈ j.children, ∀ path,
        (shape d' path c).node = (shape d' "root" c).node := fun c hc path => by
      have hdeep := Json.depth_lt_of_mem_children hc
      rw [← hsame c hc path]
      exact (node_shape (by omega) (by omega)).symm
    rw [shaped, shaped, filterMap_inside hsame, filterMap_inside hsame']
termination_by d

/-- The node that a document is shaped to. -/
def node? (j : Json) : Option Node :=
  (shape j.depth "root" j).node

theorem node_shape_eq (h : j.depth ≤ d) : (shape d path j).node = node? j :=
  node_shape h (Nat.le_refl _)

/-! ## All documents -/

/-- The documents that are looked at in a document: those in a container that is well formed. -/
def inner (j : Json) : List Json :=
  if wellFormed j ∧ j.typeName? = some "container" then j.children else []

/-- The document at a position, which is the way down to it: an index for every container on it. -/
def at? : Json → List Nat → Option Json
  | j, [] => some j
  | j, i :: rest => (inner j)[i]?.bind fun c => at? c rest

/-- The path of the document at a position. -/
def pathOf (position : List Nat) : String :=
  position.foldl childPath "root"

/-- One position comes before another in a document: it is above it, or under an earlier index of the
innermost container around both. -/
def Before : List Nat → List Nat → Prop :=
  List.Lex (· < ·)

/-- All documents that are looked at, with their positions, in document order. -/
def visits : Nat → Json → List (List Nat × Json)
  | 0, j => [([], j)]
  | d + 1, j =>
    ([], j) :: (inner j).zipIdx.flatMap fun c => (visits d c.1).map fun v => (c.2 :: v.1, v.2)

theorem inner_of_ill (h : wellFormed j = false) : inner j = [] := by
  simp [inner, h]

theorem inner_of_ne (h : j.typeName? ≠ some "container") : inner j = [] := by
  simp [inner, h]

theorem mem_children_of_mem_inner (h : c ∈ inner j) : c ∈ j.children := by
  rw [inner] at h
  split at h
  · exact h
  · cases h

theorem visits_of_inner (h : inner j = []) : visits d j = [([], j)] := by
  cases d <;> simp [visits, h]

/-- The documents that are listed are those that positions lead to, if the fuel suffices. -/
theorem mem_visits_iff {position : List Nat} (h : j.depth ≤ d) :
    (position, c) ∈ visits d j ↔ at? j position = some c := by
  induction d generalizing j position with
  | zero =>
    have hinner : inner j = [] := List.eq_nil_iff_forall_not_mem.mpr fun c hc => by
      have hdeep := Json.depth_lt_of_mem_children (mem_children_of_mem_inner hc)
      omega
    cases position with
    | nil => simp [visits, at?, eq_comm]
    | cons i rest => simp [visits, at?, hinner]
  | succ d ih =>
    cases position with
    | nil => simp [visits, at?, eq_comm]
    | cons i rest =>
      -- the first index of a position chooses the document in the container, and the rest leads on
      -- in it
      have hstep : (i :: rest, c) ∈ visits (d + 1) j ↔
          ∃ x, (inner j)[i]? = some x ∧ (rest, c) ∈ visits d x := by
        simp only [visits, List.mem_cons, Prod.mk.injEq, reduceCtorEq, false_and, false_or,
          List.mem_flatMap, List.mem_map, Prod.exists, List.mem_zipIdx_iff_getElem?]
        constructor
        · rintro ⟨x, k, hx, position, y, hy, heq, rfl⟩
          cases heq
          exact ⟨x, hx, hy⟩
        · rintro ⟨x, hx, hc⟩
          exact ⟨x, i, hx, rest, c, hc, rfl, rfl⟩
      rw [hstep, at?, Option.bind_eq_some_iff]
      refine exists_congr fun x => and_congr_right fun hx => ih ?_
      have hdeep :=
        Json.depth_lt_of_mem_children (mem_children_of_mem_inner (List.mem_of_getElem? hx))
      omega

/-- They are listed in document order. -/
theorem pairwise_visits (d : Nat) (j : Json) :
    (visits d j).Pairwise fun a b => Before a.1 b.1 := by
  induction d generalizing j with
  | zero => exact List.pairwise_singleton _ _
  | succ d ih =>
    rw [visits, List.pairwise_cons, List.pairwise_flatMap]
    refine ⟨?_, ?_, ?_⟩
    · intro v hv
      obtain ⟨x, -, hv⟩ := List.mem_flatMap.mp hv
      obtain ⟨w, -, rfl⟩ := List.mem_map.mp hv
      exact .nil
    · intro x _
      rw [List.pairwise_map]
      exact (ih x.1).imp .cons
    · -- of two documents in a container, all below the first come before all below the second
      have hsorted : (inner j).zipIdx.Pairwise fun a b => a.2 < b.2 := by
        rw [← List.pairwise_map, List.zipIdx_map_snd]
        exact List.pairwise_lt_range'
      refine hsorted.imp fun hlt v hv w hw => ?_
      obtain ⟨v', -, rfl⟩ := List.mem_map.mp hv
      obtain ⟨w', -, rfl⟩ := List.mem_map.mp hw
      exact .rel hlt

/-! ## What becomes of them -/

/-- A document and the node that it is shaped to, whatever is around it. -/
structure Describes (j : Json) (n : Node) : Prop where
  kind : j.kind? = some n.kind
  itself : node? j = some n
  children : n.kind = .container → n.children = j.children.filterMap node?

/-- A document that is left out, and its one report. -/
structure Reports (path : String) (j : Json) (x : Diagnostic) : Prop where
  alone : shape j.depth path j = .dropped x
  placed : x.path? = some path

/-- A node of the tree is what its document is shaped to by itself. -/
theorem describes_of_shape {n : Node} (h : j.depth ≤ d) (hn : (shape d path j).node = some n) :
    Describes j n := by
  have hself : node? j = some n := (node_shape_eq h).symm.trans hn
  cases nature j with
  | dropped report ill placed shaped =>
    rw [shaped] at hn
    cases hn
  | leaf m well kind bare shaped =>
    rw [shaped] at hn
    cases hn
    exact ⟨kind, hself, fun h => absurd h bare⟩
  | container head own well named deep shaped =>
    cases d with
    | zero => omega
    | succ d =>
      rw [shaped] at hn
      cases hn
      refine ⟨by rw [Json.kind?, named]; rfl, hself, fun _ => filterMap_inside fun c hc _ => ?_⟩
      have hdeep := Json.depth_lt_of_mem_children hc
      exact node_shape_eq (by omega)

/-- What becomes of all documents that are looked at. -/
structure Accounted (d : Nat) (path : String) (j : Json) : Prop where
  nodes : List.Forall₂ (fun v n => Describes v.2 n) ((visits d j).filter fun v => wellFormed v.2)
    (Node.nodesOf (shape d path j).node.toList)
  diagnostics : List.Forall₂ (fun v x => Reports (v.1.foldl childPath path) v.2 x)
    ((visits d j).filter fun v => !wellFormed v.2) (shape d path j).diagnostics

theorem nodesOf_filterMap (l : List Shaped) :
    Node.nodesOf (l.filterMap Shaped.node) = l.flatMap fun s => Node.nodesOf s.node.toList := by
  induction l with
  | nil => rfl
  | cons s rest ih =>
    rw [List.flatMap_cons, ← ih, ← Node.nodesOf_append]
    cases hnode : s.node with
    | none => rw [List.filterMap_cons_none hnode]; rfl
    | some n => rw [List.filterMap_cons_some hnode]; rfl

/-- Two lists that correspond in every document of a list correspond as a whole. -/
theorem forall₂_visits {β : Type} {R : List Nat × Json → β → Prop} {p : Json → Bool}
    {g : Json × Nat → List β} {l : List (Json × Nat)}
    (h : ∀ c ∈ l, List.Forall₂ (fun v b => R (c.2 :: v.1, v.2) b)
      ((visits d c.1).filter fun v => p v.2) (g c)) :
    List.Forall₂ R
      ((l.flatMap fun c => (visits d c.1).map fun v => (c.2 :: v.1, v.2)).filter fun v => p v.2)
      (l.flatMap g) := by
  induction l with
  | nil => exact .nil
  | cons c rest ih =>
    rw [List.flatMap_cons, List.flatMap_cons, List.filter_append]
    refine List.rel_append ?_ (ih fun c hc => h c (List.mem_cons_of_mem _ hc))
    rw [List.filter_map, List.forall₂_map_left_iff]
    exact h c List.mem_cons_self

/-- A document that is left out is one report, and nothing in it is looked at. -/
theorem accounted_dropped {x : Diagnostic} (ill : wellFormed j = false)
    (shaped : shape d path j = .dropped x) (h : Reports path j x) : Accounted d path j := by
  constructor
  · rw [shaped, visits_of_inner (inner_of_ill ill), List.filter_cons_of_neg (by simp [ill])]
    exact .nil
  · rw [shaped, visits_of_inner (inner_of_ill ill), List.filter_cons_of_pos (by simp [ill])]
    exact .cons h .nil

/-- A leaf is one node, and there is nothing in it. -/
theorem accounted_leaf {n : Node} (well : wellFormed j = true) (bare : n.kind ≠ .container)
    (shaped : shape d path j = ⟨some n, []⟩) (h : Describes j n) : Accounted d path j := by
  have named : j.typeName? ≠ some "container" := fun hname => by
    have hkind := h.kind
    rw [Json.kind?, hname] at hkind
    exact bare (Option.some.inj hkind).symm
  have hnodes : Node.nodesOf [n] = [n] := by
    cases n with
    | container => exact absurd rfl bare
    | markup | group | widget => rfl
  constructor
  · rw [shaped, visits_of_inner (inner_of_ne named), List.filter_cons_of_pos (by simp [well])]
    show List.Forall₂ _ _ (Node.nodesOf [n])
    rw [hnodes]
    exact .cons h .nil
  · rw [shaped, visits_of_inner (inner_of_ne named), List.filter_cons_of_neg (by simp [well])]
    exact .nil

theorem accounted_container {head : NodeHead} {own : Option String} (well : wellFormed j = true)
    (named : j.typeName? = some "container")
    (shaped : shape (d + 1) path j =
      ⟨some (.container head own ((inside d path j).filterMap Shaped.node)),
        (inside d path j).flatMap Shaped.diagnostics⟩)
    (h : Describes j (.container head own ((inside d path j).filterMap Shaped.node)))
    (hchild : ∀ c ∈ j.children.zipIdx, Accounted d (childPath path c.2) c.1) :
    Accounted (d + 1) path j := by
  have hinner : inner j = j.children := if_pos ⟨well, named⟩
  constructor
  · have hnodes : Node.nodesOf (shape (d + 1) path j).node.toList =
        .container head own ((inside d path j).filterMap Shaped.node) ::
          Node.nodesOf ((inside d path j).filterMap Shaped.node) := by
      rw [shaped]
      exact List.append_nil _
    rw [hnodes, nodesOf_filterMap, inside, List.flatMap_map, visits, hinner,
      List.filter_cons_of_pos (by simp [well])]
    exact .cons h (forall₂_visits fun c hc => (hchild c hc).nodes)
  · rw [shaped, inside, List.flatMap_map, visits, hinner, List.filter_cons_of_neg (by simp [well])]
    exact forall₂_visits (R := fun v x => Reports (v.1.foldl childPath path) v.2 x)
      (p := fun j => !wellFormed j) fun c hc => (hchild c hc).diagnostics

/-- A document is accounted for if those in it are. -/
theorem accounted_step (h : j.depth ≤ d)
    (hchild : ∀ d', d = d' + 1 → ∀ c ∈ j.children.zipIdx, Accounted d' (childPath path c.2) c.1) :
    Accounted d path j := by
  cases nature j with
  | dropped report ill placed shaped =>
    exact accounted_dropped ill (shaped d path) ⟨shaped _ path, placed path⟩
  | leaf n well kind bare shaped =>
    exact accounted_leaf well bare (shaped d path) (describes_of_shape h (by rw [shaped d path]))
  | container head own well named deep shaped =>
    cases d with
    | zero => omega
    | succ d =>
      exact accounted_container well named (shaped d path)
        (describes_of_shape h (by rw [shaped d path])) (hchild d rfl)

/-- Every document is accounted for, by induction on the fuel. -/
theorem accounted (h : j.depth ≤ d) (path : String) : Accounted d path j := by
  induction d generalizing j path with
  | zero => exact accounted_step h nofun
  | succ d ih =>
    refine accounted_step h ?_
    rintro d' ⟨⟩ c hc
    have hdeep := Json.depth_lt_of_mem_children (List.fst_mem_of_mem_zipIdx hc)
    exact ih (by omega) _

/-! ## Paths -/

/-- What an index adds to a path. -/
def pathStep (i : Nat) : List Char :=
  '/' :: (toString i).toList

theorem toList_foldl_childPath (position : List Nat) (path : String) :
    (position.foldl childPath path).toList = path.toList ++ position.flatMap pathStep := by
  induction position generalizing path with
  | nil => exact (List.append_nil _).symm
  | cons i rest ih =>
    rw [List.foldl_cons, ih, List.flatMap_cons]
    simp [childPath, pathStep]

/-- The digits of an index end where the next index, or the path, begins. -/
theorem takeWhile_pathStep (i : Nat) (position : List Nat) :
    ((toString i).toList ++ position.flatMap pathStep).takeWhile (· ≠ '/') = (toString i).toList := by
  rw [List.takeWhile_append_of_pos]
  · cases position <;> simp [pathStep]
  · intro c hc
    have hdigit := Url.isDigit_of_mem_toString hc
    refine decide_eq_true ?_
    rintro rfl
    exact absurd hdigit (by decide)

theorem flatMap_pathStep_injective {p q : List Nat}
    (h : p.flatMap pathStep = q.flatMap pathStep) : p = q := by
  induction p generalizing q with
  | nil =>
    cases q with
    | nil => rfl
    | cons j q => cases h
  | cons i p ih =>
    cases q with
    | nil => cases h
    | cons j q =>
      have htail : (toString i).toList ++ p.flatMap pathStep =
          (toString j).toList ++ q.flatMap pathStep := (List.cons.inj h).2
      have hindex : (toString i).toList = (toString j).toList := by
        rw [← takeWhile_pathStep i p, htail, takeWhile_pathStep]
      have hnumber := congrArg Url.number? hindex
      rw [Url.number?_toString, Url.number?_toString] at hnumber
      rw [hindex] at htail
      rw [Option.some.inj hnumber, ih (List.append_cancel_left htail)]

/-- Documents at different positions have different paths. -/
theorem pathOf_injective {p q : List Nat} (h : pathOf p = pathOf q) : p = q := by
  have hchars := congrArg String.toList h
  rw [pathOf, pathOf, toList_foldl_childPath, toList_foldl_childPath] at hchars
  exact flatMap_pathStep_injective (List.append_cancel_left hchars)

/-! ## Fragments -/

/-- All documents with a property among those that are looked at, in document order. -/
structure Lists (root : Json) (P : Json → Prop) (docs : List (List Nat × Json)) : Prop where
  order : docs.Pairwise fun a b => Before a.1 b.1
  mem_iff : ∀ position j, (position, j) ∈ docs ↔ at? root position = some j ∧ P j

/-- A fragment accounts for its root: its nodes are what the documents that are well formed are
shaped to, one for one and in document order, and each of the other documents is reported once. -/
structure Accounts (root : Json) (parsed : ParsedFragment) : Prop where
  kept : ∃ docs, Lists root (fun j => wellFormed j) docs ∧
    List.Forall₂ (fun v n => Describes v.2 n) docs parsed.fragment.root.nodes
  left : ∃ docs, Lists root (fun j => ¬ wellFormed j) docs ∧
    List.Forall₂ (fun v x => Reports (pathOf v.1) v.2 x) docs parsed.diagnostics
  once : ∀ position j, at? root position = some j → ¬ wellFormed j →
    (parsed.diagnostics.map Diagnostic.path?).count (some (pathOf position)) = 1

/-- No position comes before itself, so that a list in document order repeats none. -/
theorem not_before_self (position : List Nat) : ¬ Before position position := by
  intro h
  induction position with
  | nil => cases h
  | cons i rest ih =>
    cases h with
    | rel hlt => exact Nat.lt_irrefl i hlt
    | cons h => exact ih h

/-- Those that are well formed, and those that are not, are listed in document order. -/
theorem lists_visits (root : Json) {P : Json → Prop} {p : Json → Bool} (h : ∀ j, p j ↔ P j) :
    Lists root P ((visits root.depth root).filter fun v => p v.2) where
  order := (pairwise_visits root.depth root).filter _
  mem_iff position j := by
    rw [List.mem_filter, mem_visits_iff (Nat.le_refl _)]
    exact and_congr_right fun _ => h j

/-- Each document that is left out is named by one report. -/
theorem Lists.once {root : Json} {P : Json → Prop} {docs : List (List Nat × Json)}
    {diagnostics : List Diagnostic} (hdocs : Lists root P docs)
    (h : List.Forall₂ (fun v x => Reports (pathOf v.1) v.2 x) docs diagnostics)
    {position : List Nat} (hat : at? root position = some j) (hj : P j) :
    (diagnostics.map Diagnostic.path?).count (some (pathOf position)) = 1 := by
  have hpaths : diagnostics.map Diagnostic.path? = docs.map fun v => some (pathOf v.1) := by
    rw [← List.forall₂_eq_eq_eq, List.forall₂_map_left_iff, List.forall₂_map_right_iff]
    exact h.flip.imp fun x v hreports => hreports.placed
  rw [hpaths]
  refine List.count_eq_one_of_mem ?_ ?_
  · refine List.pairwise_map.mpr (hdocs.order.imp ?_)
    intro v w hbefore heq
    rw [pathOf_injective (Option.some.inj heq)] at hbefore
    exact not_before_self _ hbefore
  · exact List.mem_map_of_mem ((hdocs.mem_iff position j).mpr ⟨hat, hj⟩)

theorem accounts_of_shape {root : Json} {parsed : ParsedFragment}
    (h : shape root.depth "root" root = ⟨some parsed.fragment.root, parsed.diagnostics⟩) :
    Accounts root parsed := by
  have haccounted := accounted (Nat.le_refl root.depth) "root"
  have hleft := haccounted.diagnostics
  have hkept := haccounted.nodes
  rw [h] at hleft hkept
  have hill : Lists root (fun j => ¬ wellFormed j) _ :=
    lists_visits root (p := fun j => !wellFormed j) fun j => by simp
  refine ⟨⟨_, lists_visits root (p := wellFormed) fun j => Iff.rfl, ?_⟩, ⟨_, hill, hleft⟩,
    fun position j => hill.once hleft⟩
  rw [Option.toList_some, Node.nodesOf, Node.nodesOf, List.append_nil] at hkept
  exact hkept

end Tree

namespace Fragment

open RemoteUi.Tree

/-- The kind that a root names, as messages say it. -/
def rootKind (root : Json) : String :=
  ((root.get? "type").bind Json.text?).getD "<missing>"

/-- The three ways of reading a fragment. -/
inductive Outcome (root : Json) : Prop where
  /-- The root names another kind. -/
  | refused (named : rootKind root ≠ "container")
      (reads : ofJson root = .error (.rootNotContainer (rootKind root)))
  /-- The root is no container of the right form. -/
  | malformed (named : rootKind root = "container") (ill : ¬ wellFormed root) (report : Diagnostic)
      (reads : ofJson root = .error (.malformedRoot report.message))
  /-- There is a tree, whatever had to be left out. -/
  | shaped (named : rootKind root = "container") (well : wellFormed root) (parsed : ParsedFragment)
      (reads : ofJson root = .ok parsed)
      (shape_eq : shape root.depth "root" root = ⟨some parsed.fragment.root, parsed.diagnostics⟩)

theorem rootKind_eq_container_iff {root : Json} :
    rootKind root = "container" ↔
      ∃ members, root = .obj members ∧
        (Json.Members.find? "type" members).bind Json.text? = some "container" := by
  have hname : ∀ name : Option String, name.getD "<missing>" = "container" ↔
      name = some "container" := by
    intro name
    cases name with
    | none => exact iff_of_false (by decide) nofun
    | some s => exact Option.some_inj.symm
  rw [rootKind, hname]
  cases root with
  | obj members => simp [Json.get?]
  | null | bool | int | float | str | arr => simp [Json.get?]

theorem outcome (root : Json) : Outcome root := by
  by_cases named : rootKind root = "container"
  · obtain ⟨members, rfl, hname⟩ := rootKind_eq_container_iff.mp named
    have hofJson : ofJson (.obj members) = _ :=
      if_neg (not_not.mpr (NodeKind.ofWire?_eq_container_iff.mpr named))
    have hdepth : Json.depth (.obj members) = Json.depthMembers members + 1 := rfl
    -- the root is shaped like any other document, and what would leave it out refuses the fragment
    cases nature (.obj members) with
    | dropped report ill placed shaped =>
      refine .malformed named (by simp [ill]) (report "root") ?_
      rw [hofJson, shaped]
      rfl
    | leaf n well kind bare =>
      rw [Json.kind?, Json.typeName?, hname] at kind
      exact absurd (Option.some.inj kind).symm bare
    | container head own well _ deep shaped =>
      have hshape := shaped (Json.depthMembers members) "root"
      rw [hdepth, hshape] at hofJson
      exact .shaped named well _ hofJson hshape
  · refine .refused named (if_pos fun h => ?_)
    exact named (NodeKind.ofWire?_eq_container_iff.mp h)

theorem wellFormed_root_iff {root : Json} (named : rootKind root = "container") :
    wellFormed root ↔ ∃ members, root = .obj members ∧ ContainerFields members := by
  obtain ⟨members, rfl, hname⟩ := rootKind_eq_container_iff.mp named
  rw [wellFormed_container_iff hname]
  constructor
  · exact fun h => ⟨members, rfl, h⟩
  · rintro ⟨_, ⟨⟩, h⟩
    exact h

/-- A document is refused only for its own kind or its own fields.  If it is shaped, then every node
is what its document is shaped to by itself, with the kind that the document names and with what the
documents in it are shaped to, in order, for its children; and whatever is left out is reported, once
and with its path, in document order. -/
theorem ofJson_accounts (root : Json) :
    (∀ kind, ofJson root = .error (.rootNotContainer kind) ↔
      kind = rootKind root ∧ kind ≠ "container") ∧
    ((∃ reason, ofJson root = .error (.malformedRoot reason)) ↔
      rootKind root = "container" ∧ ¬ ∃ members, root = .obj members ∧ ContainerFields members) ∧
    ∀ parsed, ofJson root = .ok parsed → Accounts root parsed := by
  cases outcome root with
  | refused named reads =>
    rw [reads]
    refine ⟨fun kind => ?_, iff_of_false nofun fun h => named h.1, nofun⟩
    constructor
    · rintro ⟨⟩
      exact ⟨rfl, named⟩
    · rintro ⟨rfl, -⟩
      rfl
  | malformed named ill report reads =>
    rw [wellFormed_root_iff named] at ill
    rw [reads]
    exact ⟨fun kind => iff_of_false nofun fun h => h.2 (h.1.trans named),
      iff_of_true ⟨_, rfl⟩ ⟨named, ill⟩, nofun⟩
  | shaped named well parsed reads shape_eq =>
    rw [wellFormed_root_iff named] at well
    rw [reads]
    refine ⟨fun kind => iff_of_false nofun fun h => h.2 (h.1.trans named),
      iff_of_false nofun fun h => h.2 well, ?_⟩
    rintro _ ⟨⟩
    exact accounts_of_shape shape_eq

/-- A root with a text, a document of an unknown kind, and a container of a picture and of one that
lacks its source. -/
def mixedRoot : Json :=
  .obj [("type", .str "container"), ("children", .arr [
    .obj [("type", .str "text"), ("text", .str "Hello")],
    .obj [("type", .str "sparkline"), ("children", .arr [.null])],
    .obj [("type", .str "container"), ("children", .arr [
      .obj [("type", .str "image"), ("src", .str "/a.png")],
      .obj [("type", .str "image")]])]])]

theorem ofJson_accounts_mixedRoot :
    ∃ parsed, ofJson mixedRoot = .ok parsed ∧ Accounts mixedRoot parsed ∧
      parsed.fragment.root.nodes.map Node.kind = [.container, .markup, .container, .image] ∧
      parsed.diagnostics.map Diagnostic.path? = [some "root/1", some "root/2/1"] :=
  ⟨_, rfl, (ofJson_accounts mixedRoot).2.2 _ rfl, rfl, by decide⟩

end Fragment

end RemoteUi
