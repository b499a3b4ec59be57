/-
# RemoteUi.Proofs.Screen.Build — what rendering a tree does to the live widgets and groups.

A build goes through a tree node by node, and hands every widget node a widget and every group node
a group.  All that it knows while it does so is the pool, the groups, and which identities it has
met.

A widget is *settled* (`Build.Settled`) once the build can hand it out no more: it was made before,
and the identity under which it is live, if any, has been met.  Every widget that a build hands out
was not settled before and is settled after; so no widget is handed out twice, whatever the tree,
and what one node is given is left alone by the nodes that follow (`renderClosed_widgetsMade`).

The ways to meet a node are told once, for widgets (`Meets`) and for groups (`MeetsGroup`), with all
that decides which way it is:

* a widget without identity is made anew, and is never live;
* one whose identity was met before is made anew too, is not live, and is reported;
* one of a live widget's identity and kind goes on as that widget;
* any other is made anew, and is live from then on.

What holds of the parts of a tree and goes over to the whole is shown for all trees by one induction
(`RenderClosed`): a relation between what is rendered and what comes of it is closed if it holds of
nothing, of a list if it holds of both halves, of a container if it holds inside, and of each leaf.
`WidgetsMade` and `GroupsMade` are such relations, and the end of the module applies them to the
root of a fragment.
-/
import RemoteUi.Proofs.Screen.Edit
import RemoteUi.Proofs.Tree.Identity
import RemoteUi.Proofs.Widget.Pool
import RemoteUi.Screen.Build

namespace RemoteUi

namespace Build

/-! ## Counts -/

variable (b : Build) (w : Widget) (reused : Bool)

@[simp]
theorem pool_count : (b.count reused).pool = b.pool := by
  cases reused <;> rfl

@[simp]
theorem groups_count : (b.count reused).groups = b.groups := by
  cases reused <;> rfl

@[simp]
theorem widgetIds_count : (b.count reused).widgetIds = b.widgetIds := by
  cases reused <;> rfl

@[simp]
theorem groupKeys_count : (b.count reused).groupKeys = b.groupKeys := by
  cases reused <;> rfl

/-- A widget that is made without being live is in the pool. -/
theorem get?_loose : (b.loose w).2.pool.get? (b.loose w).1 = some w := by
  have hpool : (b.loose w).2.pool = (b.pool.add w).1 := pool_count _ _
  rw [hpool, WidgetPool.get?_add]
  exact if_pos rfl

/-- A widget that is made and is live from then on is in the pool. -/
theorem get?_fresh : (b.fresh w).2.pool.get? (b.fresh w).1 = some w := by
  have hpool : (b.fresh w).2.pool = (b.pool.register w).1 := pool_count _ _
  rw [hpool, WidgetPool.get?_register]
  exact if_pos rfl

/-! ## The ways to meet a widget -/

/-- The ways to meet a widget node: what is shown for it, and the build after it. -/
inductive Meets (b : Build) (fragmentId : String) (head : NodeHead) (spec : WidgetSpec) :
    Handle × Build → Prop where
  /-- It has no identity, and cannot be found again. -/
  | nameless (hid : head.identity = none) :
    Meets b fragmentId head spec (b.loose (.make "" fragmentId head spec))
  /-- Its identity was met before, which is reported. -/
  | repeated {key : String} (hid : head.identity = some key) (hkey : key ∈ b.widgetIds) :
    Meets b fragmentId head spec
      ((b.report (.duplicateId key fragmentId)).loose (.make key fragmentId head spec))
  /-- A live widget of its identity and kind goes on. -/
  | continued {key : String} {h : Handle} {old new : Widget} (hid : head.identity = some key)
    (hkey : key ∉ b.widgetIds) (hlookup : b.pool.lookup key = some h)
    (hold : b.pool.get? h = some old) (hnew : old.update fragmentId head spec = some new) :
    Meets b fragmentId head spec
      (h, { b with widgetIds := b.widgetIds ++ [key], pool := b.pool.set h new }.count true)
  /-- It is new, or of another kind than the widget that was live. -/
  | fresh {key : String} (hid : head.identity = some key) (hkey : key ∉ b.widgetIds)
    (hnone : b.continued? key fragmentId head spec = none) :
    Meets b fragmentId head spec
      ({ b with widgetIds := b.widgetIds ++ [key] }.fresh (.make key fragmentId head spec))

/-- What goes on was live under the identity, and takes the description as an update. -/
theorem continued?_eq_some {b : Build} {key fragmentId : String} {head : NodeHead}
    {spec : WidgetSpec} {h : Handle} {new : Widget}
    (hsome : b.continued? key fragmentId head spec = some (h, new)) :
    b.pool.lookup key = some h ∧
      ∃ old, b.pool.get? h = some old ∧ old.update fragmentId head spec = some new := by
  obtain ⟨h', hlookup, hsome⟩ := Option.bind_eq_some_iff.mp hsome
  obtain ⟨old, hold, hsome⟩ := Option.bind_eq_some_iff.mp hsome
  obtain ⟨new', hnew, heq⟩ := Option.map_eq_some_iff.mp hsome
  cases heq
  exact ⟨hlookup, old, hold, hnew⟩

theorem widget_meets (b : Build) (fragmentId : String) (head : NodeHead) (spec : WidgetSpec) :
    b.Meets fragmentId head spec (b.widget fragmentId head spec) := by
  unfold widget
  split
  · rename_i hid
    exact .nameless hid
  · rename_i key hid
    split
    · rename_i hkey
      exact .repeated hid (List.contains_iff_mem.mp hkey)
    · rename_i hkey
      have hmem : key ∉ b.widgetIds := fun hmem => hkey (List.contains_iff_mem.mpr hmem)
      dsimp only
      split
      · rename_i h new hsome
        obtain ⟨hlookup, old, hold, hnew⟩ := continued?_eq_some hsome
        exact .continued hid hmem hlookup hold hnew
      · rename_i hnone
        exact .fresh hid hmem hnone

/-- A widget has no part in the groups. -/
theorem Meets.groups_eq {b : Build} {fragmentId : String} {head : NodeHead} {spec : WidgetSpec}
    {r : Handle × Build} (hr : b.Meets fragmentId head spec r) :
    r.2.groups = b.groups ∧ r.2.groupKeys = b.groupKeys := by
  cases hr with
  | nameless | repeated | continued | fresh => exact ⟨groups_count _ _, groupKeys_count _ _⟩

/-! ## The ways to meet a group -/

/-- The ways to meet a group node: what is shown for it, if anything, and the build after it. -/
inductive MeetsGroup (b : Build) (fragmentId : String) (head : NodeHead) (spec : GroupSpec) :
    Option Rendered × Build → Prop where
  | nameless (d : Diagnostic) (hid : head.identity = none) :
    MeetsGroup b fragmentId head spec (none, b.report d)
  | repeated {key : String} (d : Diagnostic) (hid : head.identity = some key)
    (hkey : key ∈ b.groupKeys) : MeetsGroup b fragmentId head spec (none, b.report d)
  | attached {key : String} (a : Groups.Attachment) (ha : a = attachment fragmentId head spec)
    (hid : head.identity = some key) (hkey : key ∉ b.groupKeys) :
    MeetsGroup b fragmentId head spec
      (some (.group key a.kind),
        { b with
          groups := (b.groups.attach key a).1
          groupKeys := b.groupKeys ++ [key] }.count (b.groups.attach key a).2)

theorem group_meets (b : Build) (fragmentId : String) (head : NodeHead) (spec : GroupSpec) :
    b.MeetsGroup fragmentId head spec (b.group fragmentId head spec) := by
  unfold group
  dsimp only
  split
  · rename_i hid
    exact .nameless _ hid
  · rename_i key hid
    split
    · rename_i hkey
      exact .repeated _ hid (List.contains_iff_mem.mp hkey)
    · rename_i hkey
      exact .attached _ rfl hid fun hmem => hkey (List.contains_iff_mem.mpr hmem)

end Build

/-! ## Induction over what is rendered -/

/-- A relation between what is rendered and what comes of it, by way of the build before and the
build after, that goes from parts to wholes. -/
structure RenderClosed (R : String → List Node → Build → List Rendered → Build → Prop) : Prop where
  nil : ∀ fragmentId b, R fragmentId [] b [] b
  append : ∀ {fragmentId ns ms b b' b'' rs ss}, R fragmentId ns b rs b' →
    R fragmentId ms b' ss b'' → R fragmentId (ns ++ ms) b (rs ++ ss) b''
  container : ∀ {fragmentId own children b b' rs} head,
    R (effectiveFragment fragmentId own) children b rs b' →
    R fragmentId [.container head own children] b
      [.container (.make head (own.map fun _ => effectiveFragment fragmentId own)) rs] b'
  markup : ∀ fragmentId head tag content b,
    R fragmentId [.markup head tag content] b [.markup tag content head.style] b
  widget : ∀ fragmentId head spec b, R fragmentId [.widget head spec] b
    [.widget (b.widget fragmentId head spec).1] (b.widget fragmentId head spec).2
  group : ∀ fragmentId head spec b, R fragmentId [.group head spec] b
    (b.group fragmentId head spec).1.toList (b.group fragmentId head spec).2

namespace RenderClosed

variable {R : String → List Node → Build → List Rendered → Build → Prop}

-- a node is rendered with the fragment that it is in, so both go along; a node that shows nothing
-- adds nothing to its list
mutual
theorem render (hR : RenderClosed R) (fragmentId : String) :
    ∀ (n : Node) (b : Build),
      R fragmentId [n] b (n.render fragmentId b).1.toList (n.render fragmentId b).2
  | .markup head tag content, b => hR.markup fragmentId head tag content b
  | .widget head spec, b => hR.widget fragmentId head spec b
  | .group head spec, b => hR.group fragmentId head spec b
  | .container head own children, b =>
    hR.container head (hR.renderAll (effectiveFragment fragmentId own) children b)

theorem renderAll (hR : RenderClosed R) (fragmentId : String) :
    ∀ (ns : List Node) (b : Build),
      R fragmentId ns b (Node.renderAll fragmentId ns b).1 (Node.renderAll fragmentId ns b).2
  | [], b => hR.nil fragmentId b
  | n :: rest, b => by
    have hn := hR.render fragmentId n b
    have hrest := hR.renderAll fragmentId rest (n.render fragmentId b).2
    have happend := hR.append hn hrest
    unfold Node.renderAll
    cases hr : (n.render fragmentId b).1 with
    | none => simpa [hr] using happend
    | some r => simpa [hr] using happend
end

end RenderClosed

/-! ## Widgets -/

open Rendered (leaves handle? groupKey? leaves_append leaves_container ofLeaves_handle?
  ofLeaves_groupKey?)

/-- The build can hand out the widget no more. -/
def Build.Settled (b : Build) (h : Nat) : Prop :=
  h < b.pool.widgets.size ∧ ∀ key, b.pool.lookup key = some h → key ∈ b.widgetIds

/-- What rendering nodes makes of the widgets. -/
structure WidgetsMade (ns : List Node) (b : Build) (rs : List Rendered) (b' : Build) : Prop where
  sound : b'.pool.Sound
  size_le : b.pool.widgets.size ≤ b'.pool.widgets.size
  /-- No widget changes its identity. -/
  key_eq : ∀ h < b.pool.widgets.size, b'.pool.key h = b.pool.key h
  /-- What was settled stays as it is. -/
  kept : ∀ h, b.Settled h → b'.Settled h ∧ b'.pool.get? h = b.pool.get? h
  made : ∀ h ∈ leaves handle? rs, ¬ b.Settled h ∧ b'.Settled h
  nodup : (leaves handle? rs).Nodup
  /-- Each node is shown by a widget of its identity. -/
  keys : (leaves handle? rs).map b'.pool.key = Node.shownKeys ns
  met : ∀ key, key ∈ b'.widgetIds ↔ key ∈ b.widgetIds ∨ key ∈ Node.widgetKeys ns
  lookup_eq : ∀ key, key ∈ b.widgetIds ∨ key ∉ Node.widgetKeys ns →
    b'.pool.lookup key = b.pool.lookup key
  /-- The widget that is live under an identity is the one shown for its first node. -/
  lookup_new : ∀ key ∈ Node.widgetKeys ns, key ∉ b.widgetIds →
    ∃ h ∈ leaves handle? rs, b'.pool.lookup key = some h

namespace WidgetsMade

variable {ns ms : List Node} {rs ss : List Rendered} {b b' b'' : Build}

/-- Nothing is made of nodes among which there is no widget. -/
theorem of_no_widget (hb : b.pool.Sound) (hns : Node.shownKeys ns = [])
    (hkeys : Node.widgetKeys ns = []) (hrs : leaves handle? rs = []) (hpool : b'.pool = b.pool)
    (hids : b'.widgetIds = b.widgetIds) : WidgetsMade ns b rs b' where
  sound := hpool ▸ hb
  size_le := Nat.le_of_eq (by rw [hpool])
  key_eq := fun h _ => by rw [hpool]
  kept := fun h hh => ⟨by rwa [Build.Settled, hpool, hids], by rw [hpool]⟩
  made := fun h hh => by simp [hrs] at hh
  nodup := by simp [hrs]
  keys := by simp [hrs, hns]
  met := fun key => by simp [hids, hkeys]
  lookup_eq := fun key _ => by rw [hpool]
  lookup_new := fun key hkey => by simp [hkeys] at hkey

theorem append (hns : WidgetsMade ns b rs b') (hms : WidgetsMade ms b' ss b'') :
    WidgetsMade (ns ++ ms) b (rs ++ ss) b'' where
  sound := hms.sound
  size_le := Nat.le_trans hns.size_le hms.size_le
  key_eq := fun h hh => (hms.key_eq h (Nat.lt_of_lt_of_le hh hns.size_le)).trans (hns.key_eq h hh)
  kept := fun h hh => by
    obtain ⟨hsettled, hget⟩ := hns.kept h hh
    obtain ⟨hsettled, hget'⟩ := hms.kept h hsettled
    exact ⟨hsettled, hget'.trans hget⟩
  made := fun h hh => by
    rw [leaves_append, List.mem_append] at hh
    rcases hh with hh | hh
    · obtain ⟨hnew, hsettled⟩ := hns.made h hh
      exact ⟨hnew, (hms.kept h hsettled).1⟩
    · obtain ⟨hnew, hsettled⟩ := hms.made h hh
      exact ⟨fun hold => hnew (hns.kept h hold).1, hsettled⟩
  -- what the second half hands out was not settled after the first, and what the first handed out
  -- was
  nodup := by
    rw [leaves_append, List.nodup_append]
    refine ⟨hns.nodup, hms.nodup, fun h hh h' hh' heq => ?_⟩
    exact (hms.made h' hh').1 (heq ▸ (hns.made h hh).2)
  -- a widget keeps its identity, so what the first half showed is still shown under it
  keys := by
    have hkey : (leaves handle? rs).map b''.pool.key = (leaves handle? rs).map b'.pool.key :=
      List.map_congr_left fun h hh => hms.key_eq h (hns.made h hh).2.1
    rw [leaves_append, List.map_append, hkey, hns.keys, hms.keys, Node.shownKeys_append]
  met := fun key => by
    rw [hms.met, hns.met, Node.widgetKeys_append, List.mem_append, or_assoc]
  lookup_eq := fun key hkey => by
    rw [Node.widgetKeys_append, List.mem_append] at hkey
    rw [hms.lookup_eq key, hns.lookup_eq key]
    · exact hkey.imp_right fun hkey hns => hkey (Or.inl hns)
    · exact hkey.imp (fun hkey => (hns.met key).mpr (Or.inl hkey)) fun hkey hms =>
        hkey (Or.inr hms)
  lookup_new := fun key hkey hids => by
    rw [Node.widgetKeys_append, List.mem_append] at hkey
    rw [leaves_append]
    by_cases hkey' : key ∈ Node.widgetKeys ns
    -- an identity that has been met is left alone by what is rendered next
    · obtain ⟨h, hh, hlookup⟩ := hns.lookup_new key hkey' hids
      refine ⟨h, List.mem_append_left _ hh, ?_⟩
      rw [hms.lookup_eq key (Or.inl ((hns.met key).mpr (Or.inr hkey'))), hlookup]
    · have hids' : key ∉ b'.widgetIds := by
        rw [hns.met]
        exact not_or.mpr ⟨hids, hkey'⟩
      obtain ⟨h, hh, hlookup⟩ := hms.lookup_new key (hkey.resolve_left hkey') hids'
      exact ⟨h, List.mem_append_right _ hh, hlookup⟩

/-- A container is its nodes. -/
theorem container (hns : WidgetsMade ns b rs b') (head : NodeHead) (own : Option String)
    (box : Box) : WidgetsMade [.container head own ns] b [.container box rs] b' := by
  have hleaves := leaves_container ofLeaves_handle? box rs
  have hshown := Node.shownKeys_container head own ns
  have hkeys := Node.widgetKeys_container head own ns
  exact {
    sound := hns.sound
    size_le := hns.size_le
    key_eq := hns.key_eq
    kept := hns.kept
    made := by rw [hleaves]; exact hns.made
    nodup := by rw [hleaves]; exact hns.nodup
    keys := by rw [hleaves, hshown]; exact hns.keys
    met := by rw [hkeys]; exact hns.met
    lookup_eq := by rw [hkeys]; exact hns.lookup_eq
    lookup_new := by rw [hkeys, hleaves]; exact hns.lookup_new }

/-- What is shown under an identity was met under it. -/
theorem mem_widgetKeys (hmade : WidgetsMade ns b rs b') {h : Handle}
    (hh : h ∈ leaves handle? rs) (hkey : b'.pool.key h ≠ "") :
    b'.pool.key h ∈ Node.widgetKeys ns := by
  have hmem : b'.pool.key h ∈ (Node.shownKeys ns).filter (· ≠ "") := by
    rw [← hmade.keys]
    exact List.mem_filter.mpr ⟨List.mem_map_of_mem hh, by simpa using hkey⟩
  rw [Node.filter_shownKeys] at hmem
  exact (List.mem_filter.mp hmem).1

/-- What is made of a single widget node. -/
theorem single {head : NodeHead} {spec : WidgetSpec} {h : Handle} (sound : b'.pool.Sound)
    (size_le : b.pool.widgets.size ≤ b'.pool.widgets.size)
    (key_eq : ∀ h < b.pool.widgets.size, b'.pool.key h = b.pool.key h)
    (kept : ∀ h, b.Settled h → b'.Settled h ∧ b'.pool.get? h = b.pool.get? h)
    (made : ¬ b.Settled h ∧ b'.Settled h) (key : b'.pool.key h = head.identity.getD "")
    (met : ∀ key, key ∈ b'.widgetIds ↔ key ∈ b.widgetIds ∨ head.identity = some key)
    (lookup_eq : ∀ key, key ∈ b.widgetIds ∨ head.identity ≠ some key →
      b'.pool.lookup key = b.pool.lookup key)
    (lookup_new : ∀ key, head.identity = some key → key ∉ b.widgetIds →
      b'.pool.lookup key = some h) :
    WidgetsMade [.widget head spec] b [.widget h] b' := by
  have hmem : ∀ key, key ∈ Node.widgetKeys [.widget head spec] ↔ head.identity = some key :=
    fun key => Node.mem_widgetKeys_widget
  exact {
    sound := sound
    size_le := size_le
    key_eq := key_eq
    kept := kept
    made := fun h' hh' => by
      obtain rfl := List.mem_singleton.mp hh'
      exact made
    nodup := List.pairwise_singleton _ h
    keys := congrArg (fun key => [key]) key
    met := fun key => by rw [hmem, met]
    lookup_eq := fun key => by rw [hmem]; exact lookup_eq key
    lookup_new := fun key hkey hids =>
      ⟨h, List.mem_singleton_self h, lookup_new key ((hmem key).mp hkey) hids⟩ }

/-- A widget that is not live is new, and can never be looked up. -/
theorem of_loose {head : NodeHead} {spec : WidgetSpec} {w : Widget} (hb : b.pool.Sound)
    (hw : w.key = head.identity.getD "")
    (hmet : ∀ key, head.identity = some key → key ∈ b.widgetIds)
    (hpool : b'.pool = (b.pool.add w).1) (hids : b'.widgetIds = b.widgetIds) :
    WidgetsMade [.widget head spec] b [.widget b.pool.widgets.size] b' := by
  have hsize : b'.pool.widgets.size = b.pool.widgets.size + 1 := by rw [hpool, WidgetPool.size_add]
  have hlookup : ∀ key, b'.pool.lookup key = b.pool.lookup key := fun key => by
    rw [hpool, WidgetPool.lookup_add]
  have hkept : ∀ h, b.Settled h → b'.Settled h ∧ b'.pool.get? h = b.pool.get? h := by
    intro h ⟨hlt, hall⟩
    refine ⟨⟨by omega, fun key hkey => ?_⟩, ?_⟩
    · rw [hids]
      exact hall key (hlookup key ▸ hkey)
    · rw [hpool, WidgetPool.get?_add, if_neg (Nat.ne_of_lt hlt)]
  -- the index leads to widgets that were there before, and so not to the new one
  have hsettled : b'.Settled b.pool.widgets.size := by
    refine ⟨by omega, fun key hkey => ?_⟩
    have hlt := hb.lt_size (hlookup key ▸ hkey)
    omega
  refine single (hpool ▸ hb.add w) (by omega) (fun h hlt => ?_) hkept
    ⟨fun hold => Nat.lt_irrefl _ hold.1, hsettled⟩ ?_ (fun key => ?_) (fun key _ => hlookup key)
    fun key hid hkey => absurd (hmet key hid) hkey
  · rw [hpool, WidgetPool.key_add hlt]
  · rw [hpool, WidgetPool.key_add_self, hw]
  · rw [hids]
    exact (or_iff_left_of_imp (hmet key)).symm

/-- A new widget that is live takes the place of any other of its identity. -/
theorem of_fresh {head : NodeHead} {spec : WidgetSpec} {w : Widget} (hb : b.pool.Sound)
    (hid : head.identity = some w.key) (hnew : w.key ∉ b.widgetIds)
    (hpool : b'.pool = (b.pool.register w).1)
    (hids : b'.widgetIds = b.widgetIds ++ [w.key]) :
    WidgetsMade [.widget head spec] b [.widget b.pool.widgets.size] b' := by
  have hsize : b'.pool.widgets.size = b.pool.widgets.size + 1 := by
    rw [hpool, WidgetPool.size_register]
  have hlookup : ∀ key, b'.pool.lookup key =
      if key = w.key then some b.pool.widgets.size else b.pool.lookup key := fun key => by
    rw [hpool, WidgetPool.lookup_register]
  have hkept : ∀ h, b.Settled h → b'.Settled h ∧ b'.pool.get? h = b.pool.get? h := by
    intro h ⟨hlt, hall⟩
    refine ⟨⟨by omega, fun key hkey => ?_⟩, ?_⟩
    · rw [hlookup] at hkey
      rw [hids, List.mem_append]
      split at hkey
      · have := Option.some.inj hkey
        omega
      · exact Or.inl (hall key hkey)
    · rw [hpool, WidgetPool.get?_register, if_neg (Nat.ne_of_lt hlt)]
  -- its own identity is the only one under which it is live, and was just met
  have hsettled : b'.Settled b.pool.widgets.size := by
    refine ⟨by omega, fun key hkey => ?_⟩
    rw [hlookup] at hkey
    rw [hids, List.mem_append]
    split at hkey
    · rename_i heq
      exact Or.inr (List.mem_singleton.mpr heq)
    · have hlt := hb.lt_size hkey
      omega
  refine single (hpool ▸ hb.register w) (by omega) (fun h hlt => ?_) hkept
    ⟨fun hold => Nat.lt_irrefl _ hold.1, hsettled⟩ ?_ (fun key => ?_) (fun key hkey => ?_)
    fun key hkey _ => ?_
  · rw [hpool, WidgetPool.key_register hlt]
  · rw [hpool, WidgetPool.key_register_self, hid]
    rfl
  · rw [hids, List.mem_append, List.mem_singleton, hid, Option.some_inj, eq_comm]
  · rw [hlookup, if_neg]
    rintro rfl
    exact hkey.elim hnew fun hne => hne hid
  · rw [hlookup, if_pos]
    exact Option.some.inj (hkey.symm.trans hid)

/-- A widget that goes on stays live, and is met. -/
theorem of_continued {head : NodeHead} {spec : WidgetSpec} {key : String} {h : Nat}
    {old new : Widget} (hb : b.pool.Sound) (hid : head.identity = some key)
    (hkey : key ∉ b.widgetIds) (hlive : b.pool.lookup key = some h)
    (hold : b.pool.get? h = some old) (hnew : new.key = old.key)
    (hpool : b'.pool = b.pool.set h new) (hids : b'.widgetIds = b.widgetIds ++ [key]) :
    WidgetsMade [.widget head spec] b [.widget h] b' := by
  have hsize : b'.pool.widgets.size = b.pool.widgets.size := by rw [hpool, WidgetPool.size_set]
  have hlookup : ∀ key, b'.pool.lookup key = b.pool.lookup key := fun key => by
    rw [hpool, WidgetPool.lookup_set]
  -- it is live under an identity that was not met, so it could still be handed out
  have hunsettled : ¬ b.Settled h := fun hsettled => hkey (hsettled.2 key hlive)
  have hkept : ∀ h', b.Settled h' → b'.Settled h' ∧ b'.pool.get? h' = b.pool.get? h' := by
    intro h' hh'
    obtain ⟨hlt, hall⟩ := hh'
    refine ⟨⟨by omega, fun key hkey => ?_⟩, ?_⟩
    · rw [hids]
      exact List.mem_append_left _ (hall key (hlookup key ▸ hkey))
    -- the widget that goes on was not met before, so it is none of those settled
    · rw [hpool, WidgetPool.get?_set hold, if_neg]
      rintro rfl
      exact hunsettled ⟨hlt, hall⟩
  -- a widget is live under one identity only, and that was met now
  have hsettled : b'.Settled h := by
    refine ⟨hsize ▸ hb.lt_size hlive, fun key' hkey' => ?_⟩
    have hlive' : b.pool.lookup key' = some h := (hlookup key').symm.trans hkey'
    rw [hids, hb.key_unique hlive hlive']
    exact List.mem_append_right _ (List.mem_singleton_self key)
  refine single (hpool ▸ hb.set hold hnew) (Nat.le_of_eq hsize.symm) (fun h' _ => ?_) hkept
    ⟨hunsettled, hsettled⟩ ?_ (fun key' => ?_) (fun key' _ => hlookup key') fun key' hkey' _ => ?_
  · rw [hpool, WidgetPool.key_set hold hnew]
  · rw [hpool, WidgetPool.key_set hold hnew, hb.key_eq hlive, hid]
    rfl
  · rw [hids, List.mem_append, List.mem_singleton, hid, Option.some_inj, eq_comm]
  · rw [hlookup, ← hlive]
    exact congrArg b.pool.lookup (Option.some.inj (hkey'.symm.trans hid))

end WidgetsMade

/-- Each way to meet a widget node hands out one widget, in the way of its kind. -/
theorem Build.Meets.widgetsMade {b : Build} {fragmentId : String} {head : NodeHead}
    {spec : WidgetSpec} {r : Handle × Build} (hr : b.Meets fragmentId head spec r)
    (hb : b.pool.Sound) : WidgetsMade [.widget head spec] b [.widget r.1] r.2 := by
  cases hr with
  | nameless hid =>
    refine .of_loose hb ?_ (fun key hkey => ?_) (pool_count _ _) (widgetIds_count _ _)
    · rw [hid]
      rfl
    · rw [hid] at hkey
      cases hkey
  | repeated hid hkey =>
    refine .of_loose hb ?_ (fun key' hkey' => ?_) (pool_count _ _) (widgetIds_count _ _)
    · rw [hid]
      rfl
    · rw [hid] at hkey'
      exact Option.some.inj hkey' ▸ hkey
  | continued hid hkey hlookup hold hnew =>
    exact .of_continued hb hid hkey hlookup hold (Widget.key_update hnew) (pool_count _ _)
      (widgetIds_count _ _)
  | fresh hid hkey hnone =>
    exact .of_fresh hb hid hkey (pool_count _ _) (widgetIds_count _ _)

/-- Rendering a tree, in a sound pool, hands out every widget once. -/
theorem renderClosed_widgetsMade :
    RenderClosed fun _ ns b rs b' => b.pool.Sound → WidgetsMade ns b rs b' where
  nil := fun _ _ hb => .of_no_widget hb rfl rfl rfl rfl rfl
  append := fun hns hms hb => (hns hb).append (hms (hns hb).sound)
  container := fun head hns hb => (hns hb).container head _ _
  markup := fun _ _ _ _ _ hb => .of_no_widget hb rfl rfl rfl rfl rfl
  widget := fun fragmentId head spec b hb => (b.widget_meets fragmentId head spec).widgetsMade hb
  group := fun fragmentId head spec b hb => by
    generalize hr : b.group fragmentId head spec = r
    cases hr ▸ b.group_meets fragmentId head spec with
    | nameless d hid => exact .of_no_widget hb rfl rfl rfl rfl rfl
    | repeated d hid hkey => exact .of_no_widget hb rfl rfl rfl rfl rfl
    | attached a ha hid hkey =>
      exact .of_no_widget hb rfl rfl rfl (Build.pool_count _ _) (Build.widgetIds_count _ _)

/-! ## Groups -/

/-- What rendering nodes makes of the groups. -/
structure GroupsMade (ns : List Node) (b : Build) (rs : List Rendered) (b' : Build) : Prop where
  met : ∀ key, key ∈ b'.groupKeys ↔ key ∈ b.groupKeys ∨ key ∈ Node.groupKeys ns
  /-- A group is shown for its first node. -/
  shown : ∀ key, key ∈ leaves groupKey? rs ↔ key ∈ Node.groupKeys ns ∧ key ∉ b.groupKeys
  get?_eq : ∀ key, key ∈ b.groupKeys ∨ key ∉ Node.groupKeys ns →
    b'.groups.get? key = b.groups.get? key
  /-- A group has the options of its first node. -/
  get?_new : ∀ key options, key ∉ b.groupKeys → Node.options? ns key = some options →
    ∃ g, b'.groups.get? key = some g ∧ g.members.map Member.value = options

theorem Groups.Attachment.map_value (a : Groups.Attachment) (previous : Option Group) :
    (a.group previous).members.map Member.value = a.options := by
  rw [group, Group.membersFor, List.map_map]
  exact List.map_id a.options

theorem Build.options_attachment (fragmentId : String) (head : NodeHead) (spec : GroupSpec) :
    (Build.attachment fragmentId head spec).options = spec.options := by
  cases spec <;> rfl

namespace GroupsMade

variable {ns ms : List Node} {rs ss : List Rendered} {b b' b'' : Build}

/-- Nothing is made of nodes that are no new group. -/
theorem of_no_group (hns : ∀ key ∈ Node.groupKeys ns, key ∈ b.groupKeys)
    (hrs : leaves groupKey? rs = []) (hgroups : b'.groups = b.groups)
    (hkeys : b'.groupKeys = b.groupKeys) : GroupsMade ns b rs b' where
  met := fun key => by rw [hkeys, or_iff_left_of_imp (hns key)]
  shown := fun key => by
    rw [hrs]
    exact ⟨nofun, fun hkey => absurd (hns key hkey.1) hkey.2⟩
  get?_eq := fun key _ => by rw [hgroups]
  get?_new := fun key options hkey hoptions => by
    have hmem := Node.isSome_options?_iff.mp (Option.isSome_of_eq_some hoptions)
    exact absurd (hns key hmem) hkey

theorem append (hns : GroupsMade ns b rs b') (hms : GroupsMade ms b' ss b'') :
    GroupsMade (ns ++ ms) b (rs ++ ss) b'' where
  met := fun key => by
    rw [hms.met, hns.met, Node.groupKeys_append, List.mem_append, or_assoc]
  shown := fun key => by
    rw [leaves_append, List.mem_append, hns.shown, hms.shown, hns.met, Node.groupKeys_append,
      List.mem_append]
    grind
  get?_eq := fun key hkey => by
    rw [Node.groupKeys_append, List.mem_append] at hkey
    rw [hms.get?_eq key, hns.get?_eq key]
    · exact hkey.imp_right fun hkey hns => hkey (Or.inl hns)
    · exact hkey.imp (fun hkey => (hns.met key).mpr (Or.inl hkey)) fun hkey hms =>
        hkey (Or.inr hms)
  -- a group has the options of the first node with its key, which can be in either half
  get?_new := fun key options hkey hoptions => by
    rw [Node.options?_append] at hoptions
    cases hfirst : Node.options? ns key with
    -- the options that count are those of the first node with the key
    | some options' =>
      rw [hfirst, Option.some_or] at hoptions
      obtain ⟨g, hg, hmembers⟩ := hns.get?_new key options' hkey hfirst
      have hmem := Node.isSome_options?_iff.mp (Option.isSome_of_eq_some hfirst)
      refine ⟨g, ?_, hmembers.trans (Option.some.inj hoptions)⟩
      rw [hms.get?_eq key (Or.inl ((hns.met key).mpr (Or.inr hmem))), hg]
    | none =>
      rw [hfirst, Option.none_or] at hoptions
      refine hms.get?_new key options ?_ hoptions
      rw [hns.met]
      exact not_or.mpr ⟨hkey, fun hmem => by simp [← Node.isSome_options?_iff, hfirst] at hmem⟩

/-- A container is its nodes. -/
theorem container (hns : GroupsMade ns b rs b') (head : NodeHead) (own : Option String)
    (box : Box) : GroupsMade [.container head own ns] b [.container box rs] b' := by
  have hleaves := leaves_container ofLeaves_groupKey? box rs
  have hkeys := Node.groupKeys_container head own ns
  exact {
    met := by rw [hkeys]; exact hns.met
    shown := by rw [hkeys, hleaves]; exact hns.shown
    get?_eq := by rw [hkeys]; exact hns.get?_eq
    get?_new := fun key => by rw [Node.options?_container]; exact hns.get?_new key }

/-- A group that was not met before is attached, with the options of its node. -/
theorem of_attached {fragmentId key : String} {head : NodeHead} {spec : GroupSpec}
    {a : Groups.Attachment} (ha : a = Build.attachment fragmentId head spec)
    (hid : head.identity = some key) (hkey : key ∉ b.groupKeys)
    (hgroups : b'.groups = (b.groups.attach key a).1) (hkeys : b'.groupKeys = b.groupKeys ++ [key]) :
    GroupsMade [.group head spec] b [.group key a.kind] b' where
  met := fun key' => by
    rw [hkeys, List.mem_append, List.mem_singleton, Node.mem_groupKeys_group, hid, Option.some_inj,
      eq_comm]
  shown := fun key' => by
    rw [Node.mem_groupKeys_group, hid, Option.some_inj]
    refine ⟨fun hmem => ?_, fun hmem => ?_⟩
    · obtain rfl := List.mem_singleton.mp hmem
      exact ⟨rfl, hkey⟩
    · exact List.mem_singleton.mpr hmem.1.symm
  get?_eq := fun key' hkey' => by
    rw [hgroups, Groups.attach, Table.get?_insert, if_neg]
    rintro rfl
    exact hkey'.elim hkey fun hne => hne (Node.mem_groupKeys_group.mpr hid)
  get?_new := fun key' options hkey' hoptions => by
    have hmem := Node.isSome_options?_iff.mp (Option.isSome_of_eq_some hoptions)
    obtain rfl := Option.some.inj (hid.symm.trans (Node.mem_groupKeys_group.mp hmem))
    have hspec : spec.options = options := by
      simpa [Node.options?, Node.nodesOf, Node.nodes, Node.optionsOf?, hid] using hoptions
    refine ⟨_, by rw [hgroups, Groups.attach, Table.get?_insert, if_pos rfl], ?_⟩
    rw [Groups.Attachment.map_value, ha, Build.options_attachment, hspec]

end GroupsMade

/-- Rendering a tree attaches every group once, for its first node. -/
theorem renderClosed_groupsMade : RenderClosed fun _ => GroupsMade where
  nil := fun _ _ => .of_no_group nofun rfl rfl rfl
  append := fun hns hms => hns.append hms
  container := fun head hns => hns.container head _ _
  markup := fun _ _ _ _ _ => .of_no_group nofun rfl rfl rfl
  widget := fun fragmentId head spec b =>
    have hgroups := (b.widget_meets fragmentId head spec).groups_eq
    .of_no_group nofun rfl hgroups.1 hgroups.2
  group := fun fragmentId head spec b => by
    generalize hr : b.group fragmentId head spec = r
    cases hr ▸ b.group_meets fragmentId head spec with
    | nameless d hid =>
      refine .of_no_group (fun key hkey => ?_) rfl rfl rfl
      rw [Node.mem_groupKeys_group, hid] at hkey
      cases hkey
    | repeated d hid hkey =>
      refine .of_no_group (fun key' hkey' => ?_) rfl rfl rfl
      rw [Node.mem_groupKeys_group, hid] at hkey'
      exact Option.some.inj hkey' ▸ hkey
    | attached a ha hid hkey =>
      exact .of_attached ha hid hkey (Build.groups_count _ _) (Build.groupKeys_count _ _)

/-! ## Fragments -/

namespace Fragment

variable (f : Fragment) (pool : WidgetPool) (groups : Groups)

/-- What the root of a fragment is rendered as. -/
def rendered : List Rendered :=
  (f.root.render f.id (Build.start pool groups)).1.toList

/-- The build after a fragment is the one after its root; a root that is no container shows nothing,
but what it has met counts. -/
theorem build_build :
    (f.build pool groups).build = (f.root.render f.id (Build.start pool groups)).2 := by
  unfold build
  cases hr : (f.root.render f.id (Build.start pool groups)).1.bind Rendered.panel? with
  | none => simp only [hr]
  | some panel => simp only [hr]

theorem build_widgetsMade (hpool : pool.Sound) :
    WidgetsMade [f.root] (Build.start pool groups) (f.rendered pool groups)
      (f.build pool groups).build := by
  rw [build_build]
  exact renderClosed_widgetsMade.render f.id f.root (Build.start pool groups) hpool

theorem build_groupsMade :
    GroupsMade [f.root] (Build.start pool groups) (f.rendered pool groups)
      (f.build pool groups).build := by
  rw [build_build]
  exact renderClosed_groupsMade.render f.id f.root (Build.start pool groups)

theorem isFragment_build : (f.build pool groups).root.box.isFragment f.id = true := by
  unfold build
  cases hr : (f.root.render f.id (Build.start pool groups)).1.bind Rendered.panel? with
  | none => simp [hr, Box.isFragment, Box.make]
  | some panel => simp [hr, Box.isFragment]

/-- A fragment with a container at its root, with what is inside rendered in the fragment that it
names. -/
theorem build_container {head : NodeHead} {own : Option String} {children : List Node}
    (hroot : f.root = .container head own children) :
    f.build pool groups =
      let made := Node.renderAll (effectiveFragment f.id own) children (Build.start pool groups)
      ⟨⟨Box.make head (some f.id), made.1⟩, made.2⟩ := by
  rw [build, hroot, Node.render]
  rfl

/-- A root that is a container shows what it holds. -/
theorem rendered_eq (hroot : ∃ head own children, f.root = .container head own children) :
    ∃ box, f.rendered pool groups = [.container box (f.build pool groups).root.children] := by
  obtain ⟨head, own, children, hroot⟩ := hroot
  simp only [rendered, build, hroot, Node.render]
  exact ⟨_, rfl⟩

variable {α : Type} {g : Rendered → Option α}

theorem leaves_build (hg : Rendered.OfLeaves g)
    (hroot : ∃ head own children, f.root = .container head own children) :
    leaves g (f.build pool groups).root.children = leaves g (f.rendered pool groups) := by
  obtain ⟨box, hbox⟩ := f.rendered_eq pool groups hroot
  rw [hbox, leaves_container hg]

/-- Nothing is shown but what was rendered. -/
theorem leaves_build_sublist (hg : Rendered.OfLeaves g) :
    (leaves g (f.build pool groups).root.children).Sublist (leaves g (f.rendered pool groups)) := by
  unfold build rendered
  cases hr : (f.root.render f.id (Build.start pool groups)).1.bind Rendered.panel? with
  | none =>
    simp only [hr]
    exact List.nil_sublist _
  | some panel =>
    obtain ⟨r, hr', hpanel⟩ := Option.bind_eq_some_iff.mp hr
    obtain rfl := Rendered.eq_node_of_panel? hpanel
    have hchildren : leaves g (f.root.render f.id (Build.start pool groups)).1.toList =
        leaves g panel.children := by
      rw [hr', Option.toList_some, Rendered.leaves_node hg]
    simp only [hr, hchildren, List.Sublist.refl]

end Fragment

end RemoteUi
