import PasskeyConsent.Proofs.Collections.Runs
import PasskeyConsent.Transfer
/-!
# What crosses of a value

The entries of a value are all that stands in it, in the order in which it is written and each with the path of keys
that leads there.  They tell the value (`eq_of_entries`).  What crosses of a value has the entries that neither are
a callback or a handle nor have an internal key on their path, in the same order and with the same paths
(`entries_sanitize`), and all that is said of crossing follows from that.
-/
namespace PasskeyConsent

/-- Whether a value is part of another, at whatever depth. -/
inductive Json.Within (part : Json) : Json → Prop
  | self : Within part part
  | item {items : List Json} {x : Json} (hx : x ∈ items) (h : Within part x) : Within part (.arr items)
  | member {members : List (String × Json)} {m : String × Json} (hm : m ∈ members) (h : Within part m.2) :
    Within part (.obj members)

namespace Transferable

/-! ## Entries -/

/-- What stands at one place: a scalar, something that cannot cross, or that a list or an object begins there. -/
inductive Node where
  | null
  | bool (b : Bool)
  | int (n : Int)
  | float (x : Binary64)
  | str (s : String)
  | arr
  | obj
  | callback
  | handle (h : UiHandle)

/-- What stands at a place, and the path that leads there from outside: by the key of a member, and by nothing for an
item. -/
structure Entry where
  path : List (Option String)
  node : Node

def node : Transferable → Node
  | .null => .null
  | .bool b => .bool b
  | .int n => .int n
  | .float x => .float x
  | .str s => .str s
  | .arr _ => .arr
  | .obj _ => .obj
  | .callback => .callback
  | .handle h => .handle h

/-- The entry as it is from one level further out. -/
def Entry.below (label : Option String) (e : Entry) : Entry := { e with path := label :: e.path }

/-- All that stands in a value, in the order in which it is written. -/
def entries : Transferable → List Entry
  | .arr items => ⟨[], .arr⟩ :: itemEntries items
  | .obj members => ⟨[], .obj⟩ :: memberEntries members
  | .null => [⟨[], .null⟩]
  | .bool b => [⟨[], .bool b⟩]
  | .int n => [⟨[], .int n⟩]
  | .float x => [⟨[], .float x⟩]
  | .str s => [⟨[], .str s⟩]
  | .callback => [⟨[], .callback⟩]
  | .handle h => [⟨[], .handle h⟩]
where
  itemEntries : List Transferable → List Entry
    | [] => []
    | t :: rest => (entries t).map (Entry.below none) ++ itemEntries rest
  memberEntries : List (String × Transferable) → List Entry
    | [] => []
    | (k, t) :: rest => (entries t).map (Entry.below (some k)) ++ memberEntries rest

/-- Whether an entry crosses: it is neither a callback nor a handle, and no internal key leads to it. -/
def Entry.crosses (e : Entry) : Bool :=
  (match e.node with
    | .callback | .handle _ => false
    | _ => true) &&
  e.path.all fun label => !label.any internalKeys.contains

/-! ## The entries tell the value -/

open entries (itemEntries memberEntries)

theorem path_ne_nil_of_mem_below {label : Option String} {es : List Entry} {e : Entry}
    (he : e ∈ es.map (Entry.below label)) : e.path ≠ [] := by
  obtain ⟨e', -, rfl⟩ := List.mem_map.1 he
  exact List.cons_ne_nil _ _

theorem path_ne_nil_of_mem_itemEntries {e : Entry} : ∀ {items : List Transferable}, e ∈ itemEntries items → e.path ≠ []
  | _ :: _, he => (List.mem_append.1 he).elim path_ne_nil_of_mem_below path_ne_nil_of_mem_itemEntries

theorem path_ne_nil_of_mem_memberEntries {e : Entry} :
    ∀ {members : List (String × Transferable)}, e ∈ memberEntries members → e.path ≠ []
  | (_, _) :: _, he => (List.mem_append.1 he).elim path_ne_nil_of_mem_below path_ne_nil_of_mem_memberEntries

/-- The whole value comes first, and everything else is further in. -/
theorem entries_eq_cons (t : Transferable) :
    ∃ inner, t.entries = ⟨[], t.node⟩ :: inner ∧ ∀ e ∈ inner, e.path ≠ [] := by
  cases t with
  | arr items => exact ⟨_, rfl, fun _ => path_ne_nil_of_mem_itemEntries⟩
  | obj members => exact ⟨_, rfl, fun _ => path_ne_nil_of_mem_memberEntries⟩
  | _ => exact ⟨[], rfl, nofun⟩

theorem node_eq_of_entries_eq {t u : Transferable} (h : t.entries = u.entries) : t.node = u.node := by
  obtain ⟨inner, ht, -⟩ := t.entries_eq_cons
  obtain ⟨inner', hu, -⟩ := u.entries_eq_cons
  rw [ht, hu, List.cons.injEq, Entry.mk.injEq] at h
  exact h.1.2

theorem eq_of_below_eq {label : Option String} {e e' : Entry} (h : e.below label = e'.below label) : e = e' := by
  obtain ⟨path, node⟩ := e
  obtain ⟨path', node'⟩ := e'
  simpa [Entry.below] using h

/-- Whether an entry is not only an item or a member, but further in. -/
def Entry.isDeep (e : Entry) : Bool := 1 < e.path.length

/-- **The entries of one part end** where the next part begins. -/
theorem below_append_inj {t u : Transferable} {label label' : Option String} {more more' : List Entry}
    (hmore : more.head?.any Entry.isDeep = false) (hmore' : more'.head?.any Entry.isDeep = false)
    (h : t.entries.map (Entry.below label) ++ more = u.entries.map (Entry.below label') ++ more') :
    label = label' ∧ t.entries = u.entries ∧ more = more' := by
  obtain ⟨inner, ht, hinner⟩ := t.entries_eq_cons
  obtain ⟨inner', hu, hinner'⟩ := u.entries_eq_cons
  have hdeep : ∀ {l : Option String} {es : List Entry}, (∀ e ∈ es, e.path ≠ []) →
      (es.map (Entry.below l)).all Entry.isDeep = true := by
    intro l es hes
    simp only [List.all_map, List.all_eq_true, Function.comp_apply]
    intro e he
    have hpos := List.length_pos_iff.2 (hes e he)
    simpa [Entry.isDeep, Entry.below] using hpos
  rw [ht, hu, List.map_cons, List.map_cons, List.cons_append, List.cons_append, List.cons.injEq] at h
  obtain ⟨hfirst, hrest⟩ := h
  obtain ⟨hlabel, hnode⟩ : label = label' ∧ t.node = u.node := by simpa [Entry.below] using hfirst
  subst hlabel
  obtain ⟨heq, hmores⟩ := append_inj_of_runs (hdeep hinner) (hdeep hinner') hmore hmore' hrest
  refine ⟨rfl, ?_, hmores⟩
  rw [ht, hu, hnode, (List.map_inj_right fun _ _ => eq_of_below_eq).1 heq]

theorem head?_itemEntries (items : List Transferable) : (itemEntries items).head?.any Entry.isDeep = false := by
  cases items with
  | nil => rfl
  | cons t items =>
    obtain ⟨inner, ht, -⟩ := t.entries_eq_cons
    rw [itemEntries, ht]
    rfl

theorem head?_memberEntries (members : List (String × Transferable)) :
    (memberEntries members).head?.any Entry.isDeep = false := by
  cases members with
  | nil => rfl
  | cons m members =>
    obtain ⟨inner, ht, -⟩ := m.2.entries_eq_cons
    rw [memberEntries, ht]
    rfl

theorem itemEntries_cons_ne_nil (t : Transferable) (items : List Transferable) : itemEntries (t :: items) ≠ [] := by
  obtain ⟨inner, ht, -⟩ := t.entries_eq_cons
  simp [itemEntries, ht]

theorem memberEntries_cons_ne_nil (m : String × Transferable) (members : List (String × Transferable)) :
    memberEntries (m :: members) ≠ [] := by
  obtain ⟨inner, ht, -⟩ := m.2.entries_eq_cons
  simp [memberEntries, ht]

mutual

/-- **The entries tell the value.** -/
theorem eq_of_entries : ∀ {t u : Transferable}, t.entries = u.entries → t = u
  | .arr items, u, h => by
    have hnode := node_eq_of_entries_eq h
    cases u with
    | arr items' => rw [eq_of_itemEntries (List.cons.inj h).2]
    | _ => cases hnode
  | .obj members, u, h => by
    have hnode := node_eq_of_entries_eq h
    cases u with
    | obj members' => rw [eq_of_memberEntries (List.cons.inj h).2]
    | _ => cases hnode
  | .null, u, h | .bool _, u, h | .int _, u, h | .float _, u, h | .str _, u, h | .callback, u, h | .handle _, u, h => by
    have hnode := node_eq_of_entries_eq h
    cases u <;> cases hnode
    rfl

theorem eq_of_itemEntries : ∀ {ts us : List Transferable}, itemEntries ts = itemEntries us → ts = us
  | [], [], _ => rfl
  | [], u :: us, h => absurd h.symm (itemEntries_cons_ne_nil u us)
  | t :: ts, [], h => absurd h (itemEntries_cons_ne_nil t ts)
  | t :: ts, u :: us, h => by
    obtain ⟨-, hfirst, hrest⟩ := below_append_inj (head?_itemEntries ts) (head?_itemEntries us) h
    rw [eq_of_entries hfirst, eq_of_itemEntries hrest]

theorem eq_of_memberEntries : ∀ {ms ns : List (String × Transferable)}, memberEntries ms = memberEntries ns → ms = ns
  | [], [], _ => rfl
  | [], n :: ns, h => absurd h.symm (memberEntries_cons_ne_nil n ns)
  | m :: ms, [], h => absurd h (memberEntries_cons_ne_nil m ms)
  | (k, t) :: ms, (l, u) :: ns, h => by
    obtain ⟨hkey, hfirst, hrest⟩ := below_append_inj (head?_memberEntries ms) (head?_memberEntries ns) h
    rw [Option.some.inj hkey, eq_of_entries hfirst, eq_of_memberEntries hrest]

end

/-! ## The entries of what crosses -/

@[simp] theorem Entry.crosses_below_none (e : Entry) : (e.below none).crosses = e.crosses := rfl

theorem Entry.crosses_below_some (k : String) (e : Entry) :
    (e.below (some k)).crosses = (!internalKeys.contains k && e.crosses) := by
  simp only [crosses, below, List.all_cons, Option.any_some, Bool.and_left_comm]

/-- Of a value that cannot cross there is nothing. -/
theorem filter_entries_of_not_crosses {t : Transferable} (h : t.crosses = false) :
    t.entries.filter Entry.crosses = [] := by
  cases t <;> first | rfl | cases h

mutual

/-- **What crosses of a value has the entries that cross.** -/
theorem entries_sanitize : ∀ {t : Transferable}, t.crosses = true →
    (ofJson t.sanitize).entries = t.entries.filter Entry.crosses
  | .arr items, _ => by
    rw [sanitize, ofJson, entries, entries, itemEntries_sanitize]
    rfl
  | .obj members, _ => by
    rw [sanitize, ofJson, entries, entries, memberEntries_sanitize]
    rfl
  | .null, _ | .bool _, _ | .int _, _ | .float _, _ | .str _, _ => rfl

theorem itemEntries_sanitize : ∀ items : List Transferable,
    itemEntries (ofJson.ofItems (sanitize.sanitizeItems items)) = (itemEntries items).filter Entry.crosses
  | [] => rfl
  | t :: items => by
    rw [sanitize.sanitizeItems, itemEntries, List.filter_append, List.filter_map]
    have hbelow : Entry.crosses ∘ Entry.below none = Entry.crosses := funext Entry.crosses_below_none
    rw [hbelow]
    by_cases h : t.crosses = true
    · rw [if_pos h, ofJson.ofItems, itemEntries, entries_sanitize h, itemEntries_sanitize items]
    · rw [if_neg h, filter_entries_of_not_crosses (Bool.eq_false_iff.2 h), itemEntries_sanitize items]
      rfl

theorem memberEntries_sanitize : ∀ members : List (String × Transferable),
    memberEntries (ofJson.ofMembers (sanitize.sanitizeMembers members)) = (memberEntries members).filter Entry.crosses
  | [] => rfl
  | (k, t) :: members => by
    rw [sanitize.sanitizeMembers, memberEntries, List.filter_append, List.filter_map]
    have hbelow : Entry.crosses ∘ Entry.below (some k) = fun e => !internalKeys.contains k && e.crosses :=
      funext (Entry.crosses_below_some k)
    rw [hbelow]
    by_cases hkey : internalKeys.contains k = true
    · rw [hkey, Bool.not_true, Bool.and_false, if_neg Bool.false_ne_true, memberEntries_sanitize members]
      simp
    · rw [Bool.not_eq_true] at hkey
      simp only [hkey, Bool.not_false, Bool.and_true, Bool.true_and]
      by_cases h : t.crosses = true
      · rw [if_pos h, ofJson.ofMembers, memberEntries, entries_sanitize h, memberEntries_sanitize members]
      · rw [if_neg h, filter_entries_of_not_crosses (Bool.eq_false_iff.2 h), memberEntries_sanitize members]
        rfl

end

/-! ## What has crossed -/

mutual

theorem eq_of_ofJson : ∀ {a b : Json}, ofJson a = ofJson b → a = b
  | .arr xs, b, h => by
    cases b with
    | arr ys => rw [eq_of_ofItems (Transferable.arr.inj h)]
    | _ => cases h
  | .obj ms, b, h => by
    cases b with
    | obj ns => rw [eq_of_ofMembers (Transferable.obj.inj h)]
    | _ => cases h
  | .null, b, h | .bool _, b, h | .int _, b, h | .float _, b, h | .str _, b, h => by
    cases b <;> cases h
    rfl

theorem eq_of_ofItems : ∀ {xs ys : List Json}, ofJson.ofItems xs = ofJson.ofItems ys → xs = ys
  | [], [], _ => rfl
  | x :: xs, y :: ys, h => by
    obtain ⟨hfirst, hrest⟩ := List.cons.inj h
    rw [eq_of_ofJson hfirst, eq_of_ofItems hrest]

theorem eq_of_ofMembers : ∀ {ms ns : List (String × Json)}, ofJson.ofMembers ms = ofJson.ofMembers ns → ms = ns
  | [], [], _ => rfl
  | (k, x) :: ms, (l, y) :: ns, h => by
    obtain ⟨hfirst, hrest⟩ := List.cons.inj h
    obtain ⟨rfl, hvalue⟩ := Prod.mk.inj hfirst
    rw [eq_of_ofJson hvalue, eq_of_ofMembers hrest]

end

theorem mem_itemEntries {e : Entry} {x : Json} (he : e ∈ (ofJson x).entries) :
    ∀ {items : List Json}, x ∈ items → e.below none ∈ itemEntries (ofJson.ofItems items)
  | _ :: _, hx => by
    rw [ofJson.ofItems, itemEntries, List.mem_append]
    rcases List.mem_cons.1 hx with rfl | hx
    · exact .inl (List.mem_map_of_mem he)
    · exact .inr (mem_itemEntries he hx)

theorem mem_memberEntries {e : Entry} {m : String × Json} (he : e ∈ (ofJson m.2).entries) :
    ∀ {members : List (String × Json)}, m ∈ members → e.below (some m.1) ∈ memberEntries (ofJson.ofMembers members)
  | (_, _) :: _, hm => by
    rw [ofJson.ofMembers, memberEntries, List.mem_append]
    rcases List.mem_cons.1 hm with rfl | hm
    · exact .inl (List.mem_map_of_mem he)
    · exact .inr (mem_memberEntries he hm)

/-- The key of a member, at whatever depth, is on the path of an entry. -/
theorem exists_entry_of_within {members : List (String × Json)} {m : String × Json} (hm : m ∈ members) {j : Json}
    (h : Json.Within (.obj members) j) : ∃ e ∈ (ofJson j).entries, some m.1 ∈ e.path := by
  induction h with
  | self =>
    obtain ⟨inner, hentries, -⟩ := (ofJson m.2).entries_eq_cons
    have hfirst : ⟨[], (ofJson m.2).node⟩ ∈ (ofJson m.2).entries := by
      rw [hentries]
      exact List.mem_cons_self
    exact ⟨_, List.mem_cons_of_mem _ (mem_memberEntries hfirst hm), List.mem_cons_self⟩
  | item hx _ ih =>
    obtain ⟨e, he, hkey⟩ := ih
    exact ⟨_, List.mem_cons_of_mem _ (mem_itemEntries he hx), List.mem_cons_of_mem _ hkey⟩
  | member hm' _ ih =>
    obtain ⟨e, he, hkey⟩ := ih
    exact ⟨_, List.mem_cons_of_mem _ (mem_memberEntries he hm'), List.mem_cons_of_mem _ hkey⟩

/-- The entries of what crosses, also of a value that cannot: null stands for it. -/
theorem entries_sanitize_eq (t : Transferable) :
    (ofJson t.sanitize).entries = if t.crosses then t.entries.filter Entry.crosses else [⟨[], .null⟩] := by
  by_cases h : t.crosses = true
  · rw [if_pos h, entries_sanitize h]
  · rw [if_neg h]
    cases t <;> first | rfl | exact absurd rfl h

theorem crosses_of_mem_entries_sanitize {t : Transferable} {e : Entry} (he : e ∈ (ofJson t.sanitize).entries) :
    e.crosses = true := by
  rw [entries_sanitize_eq] at he
  split at he
  · exact (List.mem_filter.1 he).2
  · rw [List.mem_singleton.1 he]
    rfl

/-- A value all of whose entries cross is the same on the other side. -/
theorem ofJson_sanitize {t : Transferable} (h : ∀ e ∈ t.entries, e.crosses = true) : ofJson t.sanitize = t := by
  have hcrosses : t.crosses = true := by
    by_cases hc : t.crosses = true
    · exact hc
    · have hnone := filter_entries_of_not_crosses (Bool.eq_false_iff.2 hc)
      obtain ⟨inner, hentries, -⟩ := t.entries_eq_cons
      rw [List.filter_eq_self.2 h, hentries] at hnone
      cases hnone
  apply eq_of_entries
  rw [entries_sanitize hcrosses, List.filter_eq_self.2 h]

/-- **What crosses of a value**: exactly the entries that can, in their order and under their keys, so no internal key
is left at any depth.  A value without anything to strip crosses as it is, and what has crossed once crosses whole. -/
theorem sanitize_strips (t : Transferable) :
    (∀ members, Json.Within (.obj members) t.sanitize → ∀ m ∈ members, m.1 ∉ internalKeys) ∧
    (ofJson t.sanitize).entries = (if t.crosses then t.entries.filter Entry.crosses else [⟨[], .null⟩]) ∧
    (∀ j : Json, (ofJson j).entries = (ofJson t.sanitize).entries → j = t.sanitize) ∧
    ((∀ e ∈ t.entries, e.crosses = true) → ofJson t.sanitize = t) ∧
    (ofJson t.sanitize).sanitize = t.sanitize := by
  refine ⟨?external, t.entries_sanitize_eq, ?only, ofJson_sanitize, ?again⟩
  case external =>
    intro members hwithin m hm hinternal
    obtain ⟨e, he, hkey⟩ := exists_entry_of_within hm hwithin
    have hpath := List.all_eq_true.1 (Bool.and_eq_true _ _ ▸ crosses_of_mem_entries_sanitize he).2 _ hkey
    simp [hinternal] at hpath
  case only =>
    intro j hj
    exact eq_of_ofJson (eq_of_entries hj)
  case again =>
    apply eq_of_ofJson
    apply ofJson_sanitize
    exact fun e he => crosses_of_mem_entries_sanitize he

/-- An envelope with a handle, callbacks and internal keys, some of them further in, beside a null of its own. -/
def envelope : Transferable :=
  .obj [("_confirmHandle", .handle ⟨7⟩), ("credential", .obj [("confirmHandle", .arr [.str "leak"]), ("id", .str "c")]),
    ("list", .arr [.int 1, .callback, .null, .arr [.handle ⟨8⟩]]), ("onDone", .callback)]

theorem sanitize_strips_envelope :
    let stripped : Json := .obj [("credential", .obj [("id", .str "c")]), ("list", .arr [.int 1, .null, .arr []])]
    envelope.sanitize = stripped ∧ (ofJson stripped).entries = envelope.entries.filter Entry.crosses ∧
      (∀ e ∈ (ofJson stripped).entries, e.crosses = true) ∧ ofJson (ofJson stripped).sanitize = ofJson stripped := by
  intro stripped
  have hplain : ∀ e ∈ (ofJson stripped).entries, e.crosses = true := List.all_eq_true.1 rfl
  exact ⟨rfl, (sanitize_strips envelope).2.1, hplain, (sanitize_strips (ofJson stripped)).2.2.2.1 hplain⟩

end Transferable
end PasskeyConsent
