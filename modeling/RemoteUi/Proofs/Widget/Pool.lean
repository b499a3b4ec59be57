/-
# RemoteUi.Proofs.Widget.Pool — the index of live widgets.

The pool holds every widget that was ever made, and an index that leads from identities to those
that are live.  A handle is a place in the pool, so that handles stay valid whatever is made or
retired later.

In a sound pool the index leads from an identity to a widget of that identity (`Sound`), so that no
widget is live under two (`Sound.key_unique`).  Making, updating and retiring widgets keep a pool
sound; so does a change that leaves the identities of the widgets alone, such as a move of the
focus.

Two pools are `Alike` if they differ in nothing but what exists on the client only: the focus and
how far something is scrolled.  Whatever does not look at that is the same for both
(`Alike.map_eq`), and most of what is shown of screens does not.  The functions that move the focus
are known by this alone in all that has nothing to do with the focus.
-/
import RemoteUi.Widget.Pool

namespace RemoteUi

namespace Widget

/-- A description does not change the identity. -/
theorem key_update {w w' : Widget} {fragmentId : String} {head : NodeHead} {spec : WidgetSpec}
    (h : w.update fragmentId head spec = some w') : w'.key = w.key := by
  obtain ⟨state, -, rfl⟩ := Option.map_eq_some_iff.mp h
  rfl

/-- The widget without what exists on the client only. -/
def untouched (w : Widget) : Widget :=
  { w with touched := .untouched }

end Widget

namespace WidgetPool

variable {p q r : WidgetPool} {w : Widget} {key : String} {h h' : Nat}

/-! ## Sound pools -/

/-- What is live under an identity is there and has that identity. -/
def Sound (p : WidgetPool) : Prop :=
  ∀ key h, p.lookup key = some h → ∃ w, p.get? h = some w ∧ w.key = key

/-- Nothing is live in an empty pool. -/
theorem sound_empty : empty.Sound := fun _ _ h => nomatch h

/-- What is live is in the pool. -/
theorem Sound.lt_size (hp : p.Sound) (hkey : p.lookup key = some h) : h < p.widgets.size := by
  obtain ⟨w, hw, -⟩ := hp key h hkey
  exact lt_size_of_get? hw

theorem Sound.key_eq (hp : p.Sound) (hkey : p.lookup key = some h) : p.key h = key := by
  obtain ⟨w, hw, rfl⟩ := hp key h hkey
  exact key_of_get? hw

/-- No widget is live under two identities. -/
theorem Sound.key_unique {key' : String} (hp : p.Sound) (hkey : p.lookup key = some h)
    (hkey' : p.lookup key' = some h) : key' = key :=
  (hp.key_eq hkey').symm.trans (hp.key_eq hkey)

theorem key_add (hlt : h < p.widgets.size) : (p.add w).1.key h = p.key h := by
  rw [key, key, get?_add, if_neg (Nat.ne_of_lt hlt)]

theorem key_register (hlt : h < p.widgets.size) : (p.register w).1.key h = p.key h := by
  rw [key, key, get?_register, if_neg (Nat.ne_of_lt hlt)]

theorem key_add_self : (p.add w).1.key p.widgets.size = w.key := by
  rw [key, get?_add, if_pos rfl]
  rfl

theorem key_register_self : (p.register w).1.key p.widgets.size = w.key := by
  rw [key, get?_register, if_pos rfl]
  rfl

/-- One widget is put in place of another. -/
theorem get?_set (hh : p.get? h = some w) (w' : Widget) (h' : Nat) :
    (p.set h w').get? h' = if h = h' then some w' else p.get? h' := by
  rw [set, get?_modify]
  split
  · rename_i heq
    rw [← heq, hh]
    rfl
  · rfl

/-- To put a widget in its own place changes nothing. -/
theorem set_self (hw : p.get? h = some w) : p.set h w = p := by
  have hwidgets : p.widgets.modify h (fun _ => w) = p.widgets := by
    apply Array.ext_getElem?
    intro i
    rw [Array.getElem?_modify]
    split
    · rename_i heq
      have hi : p.widgets[i]? = some w := heq ▸ hw
      rw [hi, Option.map_some]
    · rfl
  unfold set modify
  rw [hwidgets]

theorem key_set {w' : Widget} (hh : p.get? h = some w) (hkey : w'.key = w.key) (h' : Nat) :
    (p.set h w').key h' = p.key h' := by
  rw [key, get?_set hh]
  split
  · rename_i heq
    rw [← heq, key_of_get? hh, ← hkey]
    rfl
  · rfl

/-- A widget that is not live makes no difference to the index. -/
theorem Sound.add (hp : p.Sound) (w : Widget) : (p.add w).1.Sound := by
  intro key h hkey
  rw [lookup_add] at hkey
  rw [get?_add, if_neg (Nat.ne_of_lt (hp.lt_size hkey))]
  exact hp key h hkey

/-- A new widget is live under the identity that it has. -/
theorem Sound.register (hp : p.Sound) (w : Widget) : (p.register w).1.Sound := by
  intro key h hkey
  rw [lookup_register] at hkey
  rw [get?_register]
  split at hkey
  · rename_i heq
    obtain rfl := Option.some.inj hkey
    exact ⟨w, if_pos rfl, heq.symm⟩
  · rw [if_neg (Nat.ne_of_lt (hp.lt_size hkey))]
    exact hp key h hkey

/-- What is retired is live no more, and the rest is as it was. -/
theorem Sound.retire (hp : p.Sound) (keys : List String) : (p.retire keys).Sound := by
  intro key h hkey
  rw [lookup_retire] at hkey
  split at hkey
  · cases hkey
  · exact hp key h hkey

/-- A pool with the same index in which every widget has the identity it had is sound as well. -/
theorem Sound.of_key_eq (hp : p.Sound) (hlookup : ∀ key, q.lookup key = p.lookup key)
    (hget : ∀ h, (q.get? h).map Widget.key = (p.get? h).map Widget.key) : q.Sound := by
  intro key h hkey
  rw [hlookup] at hkey
  obtain ⟨w, hw, rfl⟩ := hp key h hkey
  have hmap := hget h
  rw [hw] at hmap
  exact Option.map_eq_some_iff.mp hmap

theorem Sound.modify (hp : p.Sound) {f : Widget → Widget} (hf : ∀ w, (f w).key = w.key) (h : Nat) :
    (p.modify h f).Sound := by
  refine hp.of_key_eq (fun key => p.lookup_modify h key f) fun h' => ?_
  rw [get?_modify]
  split
  · cases p.get? h' <;> simp [hf]
  · rfl

theorem Sound.set (hp : p.Sound) {w' : Widget} (hh : p.get? h = some w) (hkey : w'.key = w.key) :
    (p.set h w').Sound := by
  refine hp.of_key_eq (fun key => p.lookup_set h w' key) fun h' => ?_
  rw [get?_set hh]
  split
  · rename_i heq
    rw [← heq, hh, Option.map_some, hkey, Option.map_some]
  · rfl

/-! ## Changes of what exists on the client only -/

/-- The pools differ in what exists on the client only. -/
structure Alike (p q : WidgetPool) : Prop where
  lookup_eq : ∀ key, q.lookup key = p.lookup key
  untouched_eq : ∀ h, (q.get? h).map Widget.untouched = (p.get? h).map Widget.untouched

theorem Alike.refl (p : WidgetPool) : p.Alike p := ⟨fun _ => rfl, fun _ => rfl⟩

theorem Alike.trans (hpq : p.Alike q) (hqr : q.Alike r) : p.Alike r :=
  ⟨fun key => (hqr.lookup_eq key).trans (hpq.lookup_eq key),
    fun h => (hqr.untouched_eq h).trans (hpq.untouched_eq h)⟩

theorem alike_retire_nil (p : WidgetPool) : (p.retire []).Alike p :=
  ⟨fun key => by rw [lookup_retire, if_neg List.not_mem_nil], fun _ => rfl⟩

/-- What does not look at the state of the client is the same in pools that are alike. -/
theorem Alike.map_eq {α : Type} (hpq : p.Alike q) {f : Widget → α}
    (hf : ∀ w, f w.untouched = f w) (h : Nat) : (q.get? h).map f = (p.get? h).map f := by
  -- it is a view of the widget without that state
  have hfactor : ∀ o : Option Widget, o.map f = (o.map Widget.untouched).map f := by
    intro o
    cases o with
    | none => rfl
    | some w => exact congrArg some (hf w).symm
  rw [hfactor, hpq.untouched_eq h, ← hfactor]

theorem Alike.key_eq (hpq : p.Alike q) (h : Nat) : q.key h = p.key h := by
  rw [key, hpq.map_eq (fun _ => rfl), key]

theorem Alike.sound (hpq : p.Alike q) (hp : p.Sound) : q.Sound :=
  hp.of_key_eq hpq.lookup_eq fun h => hpq.map_eq (fun _ => rfl) h

theorem Alike.lt_size_iff (hpq : p.Alike q) : h < q.widgets.size ↔ h < p.widgets.size := by
  have hget := hpq.map_eq (f := fun _ => ()) (fun _ => rfl) h
  have hnone : q.get? h = none ↔ p.get? h = none := by
    rw [← Option.map_eq_none_iff (f := fun _ => ()), hget, Option.map_eq_none_iff]
  rw [get?_eq_none_iff, get?_eq_none_iff] at hnone
  omega

/-- The focus exists on the client only. -/
theorem alike_setFocused (p : WidgetPool) (h : Nat) (focused : Bool) :
    p.Alike (p.setFocused h focused) := by
  refine ⟨fun key => p.lookup_setFocused h key focused, fun h' => ?_⟩
  rw [setFocused, get?_modify]
  split
  · cases p.get? h' <;> rfl
  · rfl

end WidgetPool

end RemoteUi
