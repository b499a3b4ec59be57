/-
# RemoteUi.Proofs.Screen.Bookkeeping — the books of a build are those of what was built.

A site is a place in a tree where a widget or a group stands (`Site`).  Whatever was there before, a
build goes through the sites in document order: it shows every site but the groups that it reports,
and makes out from the sites before it what to report of each (`renderClosed_exhibits`).  The
identities and counts that a build keeps beside the tree that it shows therefore agree with that
tree (`Fragment.booked_build`).

* What is to be shown and to be reported at a site is said of the site and of the sites before it
  (`Site.exhibit?`, `Site.report?`), without a build.  A widget is shown in any case; a group needs
  an identity that no group before it had.
* The lists of a build hold the identities of the sites, each sort for itself (`Tally.Notes`).  One
  site is noted like the next (`Notes.site`), and what is reported of it follows from what was noted
  before it (`Notes.diagnostics_site`).
* Sites are looked at in turn, each with those before it (`Site.inTurn`), so that the results can be
  stated with filters over one list.

The pools on which this is shown are all that can come about (`WidgetPool.Grown`); of these only
that they are sound is used.  An empty identity is noted but cannot be seen on what is shown, which
is why it is an exception here; trees that were read have none.
-/
import RemoteUi.Proofs.Screen.Registration
import RemoteUi.Proofs.Screen.Serving

namespace RemoteUi

open Rendered (leaves handle? groupKey? leaves_append leaves_container ofLeaves_handle?
  ofLeaves_groupKey?)

/-! ## Sites -/

/-- A place in a tree where a widget or a group stands, and the fragment that it is in. -/
structure Site where
  fragmentId : String
  head : NodeHead
  spec : WidgetSpec ⊕ GroupSpec

/-- What is shown at a site: what a widget serves, or the key and the kind of a group. -/
inductive Exhibit where
  | widget (served : Option Widget)
  | group (key : String) (kind : GroupKind)

mutual
/-- The sites in a node, in document order. -/
def Node.sites (fragmentId : String) : Node → List Site
  | .widget head spec => [⟨fragmentId, head, .inl spec⟩]
  | .group head spec => [⟨fragmentId, head, .inr spec⟩]
  | .container _ own children => Node.sitesAll (effectiveFragment fragmentId own) children
  | .markup _ _ _ => []

/-- The sites in a list of nodes, in document order. -/
def Node.sitesAll (fragmentId : String) : List Node → List Site
  | [] => []
  | n :: rest => n.sites fragmentId ++ Node.sitesAll fragmentId rest
end

/-- The sites in a fragment, in document order. -/
def Fragment.sites (f : Fragment) : List Site :=
  f.root.sites f.id

namespace Site

/-- A widget stands at the site. -/
def isWidget (s : Site) : Bool :=
  s.spec.isLeft

/-- The node that stands at the site. -/
def node (s : Site) : Node :=
  match s.spec with
  | .inl spec => .widget s.head spec
  | .inr spec => .group s.head spec

/-- The identity of the site occurred before, at a site of the same sort. -/
def recurs (s : Site) (before : List Site) : Bool :=
  s.head.identity.isSome &&
    before.any fun t => t.isWidget == s.isWidget && t.head.identity == s.head.identity

/-- What is reported of a site: a group without identity, or an identity that recurs. -/
def report? (s : Site) (before : List Site) : Option Diagnostic :=
  match s.head.identity, s.spec with
  | none, .inl _ => none
  | none, .inr spec =>
    some (.malformedNode ((Build.attachment s.fragmentId s.head spec).kind.name ++ " group")
      ("fragment '" ++ s.fragmentId ++ "'") "group node without id")
  | some key, _ => if s.recurs before then some (.duplicateId key s.fragmentId) else none

/-- What is shown at a site: a widget in any case, and a group that has an identity of its own. -/
def exhibit? (s : Site) (before : List Site) : Option Exhibit :=
  match s.spec, s.head.identity with
  | .inl spec, _ => some (.widget (some (Placed.served ⟨s.fragmentId, s.head, spec⟩)))
  | .inr _, none => none
  | .inr spec, some key =>
    if s.recurs before then none
    else some (.group key (Build.attachment s.fragmentId s.head spec).kind)

/-- The sites in turn, each with those before it. -/
def inTurn (before : List Site) : List Site → List (List Site × Site)
  | [] => []
  | s :: rest => (before, s) :: inTurn (before ++ [s]) rest

/-- Sites after other sites. -/
theorem inTurn_append (before ss ts : List Site) :
    inTurn before (ss ++ ts) = inTurn before ss ++ inTurn (before ++ ss) ts := by
  induction ss generalizing before with
  | nil => simp [inTurn]
  | cons s rest ih => simp [inTurn, ih]

variable {s : Site} {before : List Site}

/-- What is not shown is a group that is reported. -/
theorem exhibit?_eq_none_iff :
    s.exhibit? before = none ↔ s.isWidget = false ∧ (s.report? before).isSome := by
  obtain ⟨fragmentId, head, spec | spec⟩ := s
  · simp [exhibit?, isWidget]
  · unfold exhibit? report?
    cases head.identity with
    | none => simp [isWidget]
    | some key =>
      dsimp only
      split <;> simp [isWidget]

/-- The reports of repetitions are those of the sites that recur. -/
theorem isDuplicate_report? :
    ((s.report? before).map Diagnostic.isDuplicate).getD false = s.recurs before := by
  obtain ⟨fragmentId, head, spec | spec⟩ := s <;>
  · unfold report?
    cases hid : head.identity with
    | none => simp [recurs, hid, Diagnostic.isDuplicate]
    | some key =>
      dsimp only
      split <;> simp_all [Diagnostic.isDuplicate]

end Site

namespace Node

/-- The node is a widget or a group. -/
def isSite : Node → Bool
  | .widget _ _ | .group _ _ => true
  | .markup _ _ _ | .container _ _ _ => false

mutual
/-- The sites in a tree are its widgets and groups. -/
theorem map_node_sites (fragmentId : String) : ∀ n : Node,
    (n.sites fragmentId).map Site.node = n.nodes.filter isSite
  | .widget _ _ => rfl
  | .group _ _ => rfl
  | .container head own children => by
    have hself : ¬ (Node.container head own children).isSite = true := Bool.false_ne_true
    rw [sites, nodes, List.filter_cons_of_neg hself]
    exact map_node_sitesAll (effectiveFragment fragmentId own) children
  | .markup _ _ _ => rfl

theorem map_node_sitesAll (fragmentId : String) : ∀ ns : List Node,
    (sitesAll fragmentId ns).map Site.node = (nodesOf ns).filter isSite
  | [] => rfl
  | n :: rest => by
    rw [sitesAll, nodesOf, List.map_append, List.filter_append, map_node_sites fragmentId n,
      map_node_sitesAll fragmentId rest]
end

theorem sitesAll_append (fragmentId : String) (ns ms : List Node) :
    sitesAll fragmentId (ns ++ ms) = sitesAll fragmentId ns ++ sitesAll fragmentId ms := by
  induction ns with
  | nil => rfl
  | cons n rest ih => rw [List.cons_append, sitesAll, sitesAll, ih, List.append_assoc]

theorem sitesAll_singleton (fragmentId : String) (n : Node) :
    sitesAll fragmentId [n] = n.sites fragmentId := by
  rw [sitesAll, sitesAll, List.append_nil]

end Node

/-! ## Tallies, site by site -/

namespace Tally

/-- The identities of widgets that were met, or those of groups. -/
def ids (t : Tally) (widgets : Bool) : List String :=
  if widgets then t.widgetIds else t.groupKeys

/-- The tally after a site. -/
def site (t : Tally) (s : Site) : Tally :=
  match s.spec with
  | .inl _ => t.widget s.fragmentId s.head
  | .inr spec => t.group s.fragmentId s.head spec

/-- The tally has the identities of the sites, each sort for itself. -/
def Notes (t : Tally) (sites : List Site) : Prop :=
  ∀ widgets key, key ∈ t.ids widgets ↔
    ∃ s ∈ sites, s.isWidget = widgets ∧ s.head.identity = some key

variable {t : Tally} {sites : List Site} {s : Site} {key : String}

theorem notes_empty : empty.Notes [] := by
  intro widgets key
  cases widgets <;> simp [ids, empty]

theorem Notes.recurs_iff (h : t.Notes sites) (hid : s.head.identity = some key) :
    s.recurs sites = true ↔ key ∈ t.ids s.isWidget := by
  rw [h]
  simp [Site.recurs, hid]

/-- A site with an identity is noted among those of its sort. -/
theorem mem_ids_site (t : Tally) (s : Site) (widgets : Bool) (key : String) :
    key ∈ (t.site s).ids widgets ↔
      key ∈ t.ids widgets ∨ s.isWidget = widgets ∧ s.head.identity = some key := by
  -- a widget is noted even if it was met before, and a group is not
  obtain ⟨fragmentId, head, spec | spec⟩ := s
  · simp only [Tally.site, Tally.widget]
    cases hid : head.identity with
    | none => cases widgets <;> simp [ids, count]
    | some own =>
      by_cases hown : own ∈ t.widgetIds
      · have hmet : own = key → key ∈ t.widgetIds := fun heq => heq ▸ hown
        cases widgets with
        | false => simp [ids, report, count, Site.isWidget, hown]
        | true => simpa [ids, report, count, Site.isWidget, hown] using hmet
      · cases widgets <;> simp [ids, count, Site.isWidget, hown, eq_comm]
  · simp only [Tally.site, Tally.group]
    cases hid : head.identity with
    | none => cases widgets <;> simp [ids, report]
    | some own =>
      by_cases hown : own ∈ t.groupKeys
      · have hmet : own = key → key ∈ t.groupKeys := fun heq => heq ▸ hown
        cases widgets with
        | false => simpa [ids, report, Site.isWidget, hown] using hmet
        | true => simp [ids, report, Site.isWidget, hown]
      · cases widgets <;> simp [ids, count, Site.isWidget, hown, eq_comm]

/-- The next site is noted with the others. -/
theorem Notes.site (h : t.Notes sites) (s : Site) : (t.site s).Notes (sites ++ [s]) := by
  intro widgets key
  rw [mem_ids_site, h]
  simp [or_and_right, exists_or]

/-- What is reported of a site follows from the sites that were noted before it. -/
theorem Notes.diagnostics_site (h : t.Notes sites) (s : Site) :
    (t.site s).diagnostics = t.diagnostics ++ (s.report? sites).toList := by
  obtain ⟨fragmentId, head, spec | spec⟩ := s
  · simp only [Tally.site, Tally.widget, Site.report?]
    cases hid : head.identity with
    | none => simp [count]
    | some key =>
      have hrecurs := h.recurs_iff (s := ⟨fragmentId, head, .inl spec⟩) hid
      by_cases hkey : key ∈ t.widgetIds
      · simp [hrecurs.mpr hkey, hkey, report, count]
      · simp [mt hrecurs.mp hkey, hkey, count]
  · simp only [Tally.site, Tally.group, Site.report?]
    cases hid : head.identity with
    | none => simp [report]
    | some key =>
      have hrecurs := h.recurs_iff (s := ⟨fragmentId, head, .inr spec⟩) hid
      by_cases hkey : key ∈ t.groupKeys
      · simp [hrecurs.mpr hkey, hkey, report]
      · simp [mt hrecurs.mp hkey, hkey, count]

/-- Sites are noted and reported in turn. -/
theorem Notes.foldl_site (h : t.Notes sites) (ss : List Site) :
    (ss.foldl Tally.site t).Notes (sites ++ ss) ∧
      (ss.foldl Tally.site t).diagnostics =
        t.diagnostics ++ (Site.inTurn sites ss).filterMap fun p => p.2.report? p.1 := by
  induction ss generalizing t sites with
  | nil => simpa [Site.inTurn] using h
  | cons s rest ih =>
    obtain ⟨hnotes, hdiagnostics⟩ := ih (h.site s)
    rw [List.foldl_cons, Site.inTurn]
    refine ⟨by simpa using hnotes, ?_⟩
    rw [hdiagnostics, h.diagnostics_site, List.append_assoc]
    cases hreport : s.report? sites <;> simp [hreport]

end Tally

/-! ## Rendering -/

/-- What a node shows at a site. -/
def Rendered.exhibit? (pool : WidgetPool) : Rendered → Option Exhibit
  | .widget h => some (.widget (pool.served? h))
  | .group key kind => some (.group key kind)
  | _ => none

theorem Rendered.ofLeaves_exhibit? (pool : WidgetPool) : OfLeaves (exhibit? pool) :=
  fun _ _ => rfl

/-- What is shown says no more of the widgets than what is said of those shown. -/
theorem Rendered.leaves_exhibit?_congr {p q : WidgetPool} {rs : List Rendered}
    (h : ∀ handle ∈ leaves handle? rs, q.served? handle = p.served? handle) :
    leaves (exhibit? q) rs = leaves (exhibit? p) rs := by
  apply List.filterMap_congr
  intro r hr
  cases r with
  | widget handle =>
    have hhandle : handle ∈ leaves handle? rs := List.mem_filterMap.mpr ⟨_, hr, rfl⟩
    rw [exhibit?, exhibit?, h handle hhandle]
  | markup | container | group => rfl

/-- Rendering nodes goes through their sites in order: it notes each, and shows it or not. -/
structure Exhibits (fragmentId : String) (ns : List Node) (b : Build) (rs : List Rendered)
    (b' : Build) : Prop where
  widgets : WidgetsMade ns b rs b'
  tally_eq : b'.tally = (Node.sitesAll fragmentId ns).foldl Tally.site b.tally
  shown : ∀ sites, b.tally.Notes sites → leaves (Rendered.exhibit? b'.pool) rs =
    (Site.inTurn sites (Node.sitesAll fragmentId ns)).filterMap fun p => p.2.exhibit? p.1

namespace Exhibits

variable {fragmentId : String} {ns ms : List Node} {b b' b'' : Build} {rs ss : List Rendered}

theorem append (hns : Exhibits fragmentId ns b rs b') (hms : Exhibits fragmentId ms b' ss b'') :
    Exhibits fragmentId (ns ++ ms) b (rs ++ ss) b'' where
  widgets := hns.widgets.append hms.widgets
  tally_eq := by rw [hms.tally_eq, hns.tally_eq, Node.sitesAll_append, List.foldl_append]
  shown := fun sites hsites => by
    -- what was shown first is left alone by what is rendered next
    have hfirst : leaves (Rendered.exhibit? b''.pool) rs =
        leaves (Rendered.exhibit? b'.pool) rs := by
      apply Rendered.leaves_exhibit?_congr
      intro h hh
      rw [WidgetPool.served?, (hms.widgets.kept h (hns.widgets.made h hh).2).2]
      rfl
    have hnotes : b'.tally.Notes (sites ++ Node.sitesAll fragmentId ns) := by
      rw [hns.tally_eq]
      exact (hsites.foldl_site _).1
    rw [leaves_append, hfirst, hns.shown sites hsites, hms.shown _ hnotes, Node.sitesAll_append,
      Site.inTurn_append, List.filterMap_append]

theorem container {own : Option String}
    (hns : Exhibits (effectiveFragment fragmentId own) ns b rs b') (head : NodeHead) (box : Box) :
    Exhibits fragmentId [.container head own ns] b [.container box rs] b' where
  widgets := hns.widgets.container head own box
  tally_eq := by
    rw [Node.sitesAll_singleton]
    exact hns.tally_eq
  shown := by
    rw [Node.sitesAll_singleton, leaves_container (Rendered.ofLeaves_exhibit? b'.pool)]
    exact hns.shown

end Exhibits

/-- A build goes through the sites in document order. -/
theorem renderClosed_exhibits :
    RenderClosed fun fragmentId ns b rs b' => b.pool.Sound → Exhibits fragmentId ns b rs b' where
  nil := fun fragmentId b hb =>
    ⟨renderClosed_widgetsMade.nil fragmentId b hb, rfl, fun _ _ => rfl⟩
  append := fun hns hms hb => (hns hb).append (hms (hns hb).widgets.sound)
  container := fun head hns hb => (hns hb).container head _
  markup := fun fragmentId head tag content b hb =>
    ⟨renderClosed_widgetsMade.markup fragmentId head tag content b hb, rfl, fun _ _ => rfl⟩
  widget := fun fragmentId head spec b hb => by
    have hmeets := b.widget_meets fragmentId head spec
    refine ⟨renderClosed_widgetsMade.widget fragmentId head spec b hb, hmeets.tally_eq, ?_⟩
    intro sites hsites
    have hserved := hmeets.served hb
    show [Exhibit.widget ((b.widget fragmentId head spec).2.pool.served? _)] = _
    rw [WidgetPool.served?, hserved]
    rfl
  group := fun fragmentId head spec b hb => by
    refine ⟨renderClosed_widgetsMade.group fragmentId head spec b hb, b.tally_group _ _ _, ?_⟩
    intro sites hsites
    have hrecurs : ∀ key, head.identity = some key →
        (Site.recurs ⟨fragmentId, head, .inr spec⟩ sites = true ↔ key ∈ b.groupKeys) := by
      intro key hid
      exact hsites.recurs_iff (s := ⟨fragmentId, head, .inr spec⟩) hid
    rw [Node.sitesAll_singleton]
    generalize hr : b.group fragmentId head spec = r
    cases hr ▸ b.group_meets fragmentId head spec with
    | nameless d hid => simp [Node.sites, Site.inTurn, Site.exhibit?, hid]
    | repeated d hid hkey =>
      have htrue := (hrecurs _ hid).mpr hkey
      simp [Node.sites, Site.inTurn, Site.exhibit?, hid, htrue]
    | attached a ha hid hkey =>
      have hfalse := mt (hrecurs _ hid).mp hkey
      rw [ha]
      simp [Node.sites, Site.inTurn, Site.exhibit?, hid, hfalse]
      rfl

/-- Every widget and every group that is shown is counted once. -/
theorem renderClosed_rendered :
    RenderClosed fun _ _ b rs b' => b'.tally.rendered =
      b.tally.rendered + ((leaves handle? rs).length + (leaves groupKey? rs).length) where
  nil := fun _ _ => rfl
  append := fun hns hms => by
    rw [hms, hns, leaves_append, leaves_append, List.length_append, List.length_append]
    omega
  container := fun head hns => by
    rw [leaves_container ofLeaves_handle?, leaves_container ofLeaves_groupKey?]
    exact hns
  markup := fun _ _ _ _ _ => rfl
  widget := fun fragmentId head spec b => by
    rw [(b.widget_meets fragmentId head spec).tally_eq, Tally.widget]
    cases head.identity with
    | none => rfl
    | some key =>
      dsimp only
      split <;> rfl
  group := fun fragmentId head spec b => by
    generalize hr : b.group fragmentId head spec = r
    cases hr ▸ b.group_meets fragmentId head spec with
    | nameless | repeated => rfl
    | attached a ha hid hkey =>
      rw [Build.tally_count]
      rfl

/-! ## Pools -/

/-- The pools that come about: fragments are rendered, identities are retired, and widgets change
in any way but in their identity. -/
inductive WidgetPool.Grown : WidgetPool → Prop where
  | empty : Grown .empty
  | built {pool : WidgetPool} (f : Fragment) (groups : Groups) (h : Grown pool) :
    Grown (f.build pool groups).build.pool
  | retired {pool : WidgetPool} (keys : List String) (h : Grown pool) : Grown (pool.retire keys)
  | changed {pool : WidgetPool} (handle : Handle) {change : Widget → Widget}
    (hkey : ∀ w, (change w).key = w.key) (h : Grown pool) : Grown (pool.modify handle change)

/-- None of these breaks the index of live widgets. -/
theorem WidgetPool.Grown.sound {pool : WidgetPool} (h : pool.Grown) : pool.Sound := by
  induction h with
  | empty => exact sound_empty
  | built f groups h ih => exact (f.build_widgetsMade _ groups ih).sound
  | retired keys h ih => exact ih.retire keys
  | changed handle hkey h ih => exact ih.modify hkey handle

/-! ## Fragments -/

/-- A list without its repetitions has none. -/
theorem nodup_eraseDups (l : List String) : l.eraseDups.Nodup := by
  induction l using List.reverseRecOn with
  | nil => exact List.nodup_nil
  | append_singleton l a ih =>
    by_cases ha : a ∈ l
    · rwa [eraseDups_concat_of_mem ha]
    · have hnew : a ∉ l.eraseDups := mt List.mem_eraseDups.mp ha
      rw [eraseDups_concat_of_not_mem ha, List.nodup_append_comm, List.singleton_append,
        List.nodup_cons]
      exact ⟨hnew, ih⟩

namespace Fragment

/-- The books of a build agree with the tree that was built. -/
structure Booked (f : Fragment) (b : BuiltFragment) : Prop where
  /-- The sites are the widgets and groups of the tree, in order. -/
  sites : f.sites.map Site.node = f.root.nodes.filter Node.isSite
  /-- The sites are shown in order, but for groups that are reported. -/
  shown : leaves (Rendered.exhibit? b.build.pool) b.root.children =
    (Site.inTurn [] f.sites).filterMap fun p => p.2.exhibit? p.1
  /-- The problems are those of the sites, in order. -/
  reported : b.build.diagnostics = (Site.inTurn [] f.sites).filterMap fun p => p.2.report? p.1
  /-- What stands at a site is shown, or it is a group and reported. -/
  accounted : ∀ before s, (before, s) ∈ Site.inTurn [] f.sites →
    (∃ e ∈ leaves (Rendered.exhibit? b.build.pool) b.root.children, s.exhibit? before = some e) ∨
      s.isWidget = false ∧ ∃ d ∈ b.build.diagnostics, s.report? before = some d
  /-- One problem is a repetition for each site whose identity recurs. -/
  duplicates : b.build.diagnostics.countP Diagnostic.isDuplicate =
    (Site.inTurn [] f.sites).countP fun p => p.2.recurs p.1
  widgetIds_nodup : b.build.widgetIds.Nodup
  /-- The widgets that are noted are those that are shown with an identity.  An empty id counts as
  none where it is shown, though not where it is noted. -/
  mem_widgetIds : ∀ key, key ∈ b.build.widgetIds ↔
    key ∈ b.root.widgetIds b.build.pool ∨ key = "" ∧ "" ∈ f.widgetKeys
  groupKeys_nodup : b.build.groupKeys.Nodup
  /-- The groups that are noted are those that are shown. -/
  groupKeys_eq : b.build.groupKeys = b.root.groupKeys
  /-- What is counted, as reused or as constructed, is what is shown. -/
  rendered : b.build.reused + b.build.constructed =
    b.root.handles.length + b.root.groupKeys.length

variable (f : Fragment) {pool : WidgetPool} (groups : Groups)

theorem exhibits_build (hpool : pool.Sound) :
    Exhibits f.id [f.root] (Build.start pool groups) (f.rendered pool groups)
      (f.build pool groups).build := by
  rw [build_build]
  exact renderClosed_exhibits.render f.id f.root (Build.start pool groups) hpool

theorem handles_build (hroot : ∃ head own children, f.root = .container head own children) :
    (f.build pool groups).root.handles = leaves handle? (f.rendered pool groups) :=
  f.leaves_build pool groups ofLeaves_handle? hroot

theorem groupKeys_shown (hroot : ∃ head own children, f.root = .container head own children) :
    (f.build pool groups).root.groupKeys = leaves groupKey? (f.rendered pool groups) :=
  f.leaves_build pool groups ofLeaves_groupKey? hroot

theorem mem_widgetIds_build (hroot : ∃ head own children, f.root = .container head own children)
    (hpool : pool.Sound) (key : String) : key ∈ (f.build pool groups).build.widgetIds ↔
      key ∈ (f.build pool groups).root.widgetIds (f.build pool groups).build.pool ∨
        key = "" ∧ "" ∈ f.widgetKeys := by
  have hmade := f.build_widgetsMade pool groups hpool
  have hshown : (f.build pool groups).root.widgetIds (f.build pool groups).build.pool =
      f.widgetKeys.filter (· ≠ "") := by
    rw [Panel.widgetIds, f.handles_build groups hroot, hmade.keys, Node.filter_shownKeys]
    rfl
  have hmet : key ∈ (f.build pool groups).build.widgetIds ↔ key ∈ f.widgetKeys := by
    rw [hmade.met]
    simp [Build.start, widgetKeys]
  rw [hmet, hshown, List.mem_filter]
  by_cases hkey : key = ""
  · simp [hkey]
  · simp [hkey]

/-- The sites are gone through in order. -/
theorem shown_build (hroot : ∃ head own children, f.root = .container head own children)
    (hpool : pool.Sound) :
    leaves (Rendered.exhibit? (f.build pool groups).build.pool)
        (f.build pool groups).root.children =
          (Site.inTurn [] f.sites).filterMap (fun p => p.2.exhibit? p.1) ∧
      (f.build pool groups).build.diagnostics =
        (Site.inTurn [] f.sites).filterMap fun p => p.2.report? p.1 := by
  have hexhibits := f.exhibits_build groups hpool
  have hsites : Node.sitesAll f.id [f.root] = f.sites := Node.sitesAll_singleton f.id f.root
  have hstart : (Build.start pool groups).tally = .empty := rfl
  have hshown := hexhibits.shown [] (hstart ▸ Tally.notes_empty)
  have hreported := (Tally.notes_empty.foldl_site f.sites).2
  rw [hsites] at hshown
  refine ⟨(f.leaves_build pool groups (Rendered.ofLeaves_exhibit? _) hroot).trans hshown, ?_⟩
  show (f.build pool groups).build.tally.diagnostics = _
  rw [hexhibits.tally_eq, hsites, hstart, hreported]
  rfl

theorem groupKeys_build (hroot : ∃ head own children, f.root = .container head own children) :
    (f.build pool groups).build.groupKeys = (f.build pool groups).root.groupKeys := by
  rw [f.groupKeys_shown groups hroot, build_build]
  exact renderClosed_groupKeys.render f.id f.root (Build.start pool groups)

theorem rendered_build (hroot : ∃ head own children, f.root = .container head own children) :
    (f.build pool groups).build.reused + (f.build pool groups).build.constructed =
      (f.build pool groups).root.handles.length + (f.build pool groups).root.groupKeys.length := by
  rw [f.handles_build groups hroot, f.groupKeys_shown groups hroot, build_build]
  have hrendered := renderClosed_rendered.render f.id f.root (Build.start pool groups)
  exact hrendered.trans (Nat.zero_add _)

/-- What stands at a site is shown or reported, as it has to be. -/
theorem accounted_build (hroot : ∃ head own children, f.root = .container head own children)
    (hpool : pool.Sound) {before : List Site} {s : Site}
    (hs : (before, s) ∈ Site.inTurn [] f.sites) :
    (∃ e ∈ leaves (Rendered.exhibit? (f.build pool groups).build.pool)
        (f.build pool groups).root.children, s.exhibit? before = some e) ∨
      s.isWidget = false ∧ ∃ d ∈ (f.build pool groups).build.diagnostics,
        s.report? before = some d := by
  obtain ⟨hshown, hreported⟩ := f.shown_build groups hroot hpool
  cases hexhibit : s.exhibit? before with
  | some e =>
    left
    rw [hshown]
    exact ⟨e, List.mem_filterMap.mpr ⟨_, hs, hexhibit⟩, rfl⟩
  | none =>
    right
    obtain ⟨hgroup, hreport⟩ := Site.exhibit?_eq_none_iff.mp hexhibit
    obtain ⟨d, hd⟩ := Option.isSome_iff_exists.mp hreport
    rw [hreported]
    exact ⟨hgroup, d, List.mem_filterMap.mpr ⟨_, hs, hd⟩, hd⟩

theorem booked_of_sound (hroot : ∃ head own children, f.root = .container head own children)
    (hpool : pool.Sound) : f.Booked (f.build pool groups) where
  sites := f.root.map_node_sites f.id
  shown := (f.shown_build groups hroot hpool).1
  reported := (f.shown_build groups hroot hpool).2
  accounted := fun _ _ hs => f.accounted_build groups hroot hpool hs
  duplicates := by
    rw [(f.shown_build groups hroot hpool).2, List.countP_filterMap]
    simp only [Site.isDuplicate_report?]
  widgetIds_nodup := by
    have hids : (f.build pool groups).build.widgetIds = f.widgetKeys.eraseDups :=
      (f.counts_build pool groups).widgetIds_eq
    rw [hids]
    exact nodup_eraseDups _
  mem_widgetIds := f.mem_widgetIds_build groups hroot hpool
  groupKeys_nodup := by
    have hids : (f.build pool groups).build.groupKeys = f.groupKeys.eraseDups :=
      (f.counts_build pool groups).groupKeys_eq
    rw [hids]
    exact nodup_eraseDups _
  groupKeys_eq := f.groupKeys_build groups hroot
  rendered := f.rendered_build groups hroot

/-- Whatever was live before, the books of a build agree with the tree that was built.  A tree that
is read has no empty id, and the widgets noted are then exactly those shown with an identity. -/
theorem booked_build (f : Fragment) (pool : WidgetPool) (groups : Groups) (hpool : pool.Grown)
    (hroot : ∃ head own children, f.root = .container head own children) :
    f.Booked (f.build pool groups) ∧
      ((∀ n ∈ f.root.nodes, n.head.id ≠ some "") → ∀ key,
        key ∈ (f.build pool groups).build.widgetIds ↔
          key ∈ (f.build pool groups).root.widgetIds (f.build pool groups).build.pool) := by
  have hbooked := f.booked_of_sound groups hroot hpool.sound
  refine ⟨hbooked, ?_⟩
  intro hnamed key
  have hne : "" ∉ f.widgetKeys := by
    intro hempty
    exact WellFormed.ne_empty_of_mem ⟨hroot, hnamed⟩ hempty rfl
  rw [hbooked.mem_widgetIds]
  exact or_iff_left fun h => hne h.2

/-- An editor, a field and a button. -/
def earlierPage : Fragment :=
  ⟨"main", .container (.ofId none) (some "main") [
    .widget (.ofId (some "code")) (.codeEditor "" false),
    .widget (.ofId (some "name")) (.textField none ""), .button (some "go")]⟩

/-- The editor had the focus before the button was retired. -/
def earlierPool : WidgetPool :=
  let pool := (earlierPage.build .empty .empty).build.pool
  (pool.modify 0 fun w => { w with touched := { w.touched with focused := true } }).retire ["go"]

/-- The editor stays and the field becomes a button, which recurs in an inner fragment; there is a
button without id, and a group with its id twice, once without and once with the field's. -/
def laterPage : Fragment :=
  let boxes := GroupSpec.checkboxes ["x", "y"] (.arr [.str "y"]) true
  ⟨"main", .container (.ofId none) (some "main") [
    .widget (.ofId (some "code")) (.codeEditor "" true), .button (some "name"), .button none,
    .container (.ofId none) (some "side") [.button (some "name"), .group (.ofId none) boxes],
    .group (.ofId (some "boxes")) boxes, .group (.ofId (some "boxes")) boxes,
    .group (.ofId (some "name")) boxes]⟩

/-- Four widgets and two groups are shown and counted, and three problems are reported, two of which
are repetitions. -/
theorem booked_build_laterPage :
    earlierPool.Grown ∧ laterPage.Booked (laterPage.build earlierPool .empty) ∧
      (∀ key, key ∈ (laterPage.build earlierPool .empty).build.widgetIds ↔
        key ∈ (laterPage.build earlierPool .empty).root.widgetIds
          (laterPage.build earlierPool .empty).build.pool) ∧
      (laterPage.build earlierPool .empty).build.reused = 1 ∧
      (laterPage.build earlierPool .empty).build.tally =
        ⟨["code", "name"], ["boxes", "name"], 6, [.duplicateId "name" "side",
          .malformedNode "Checkbox group" "fragment 'side'" "group node without id",
          .duplicateId "boxes" "main"]⟩ := by
  have hgrown : earlierPool.Grown :=
    .retired ["go"] (.changed 0 (fun _ => rfl) (.built earlierPage .empty .empty))
  have hnamed : ∀ n ∈ laterPage.root.nodes, n.head.id ≠ some "" := by decide +kernel
  have hroot : ∃ head own children, laterPage.root = .container head own children :=
    ⟨_, _, _, rfl⟩
  obtain ⟨hbooked, hwidgetIds⟩ := booked_build laterPage earlierPool .empty hgrown hroot
  exact ⟨hgrown, hbooked, hwidgetIds hnamed, by decide +kernel, by decide +kernel⟩

end Fragment

end RemoteUi
