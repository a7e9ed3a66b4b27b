import PasskeyConsent.Proofs.Json.Records
/-!
# Documents that hold a value

A document holds a value (`Document.Holds`) if it is a whole one with the value's parts in their order, wherever in a text
they stand.  What is made of a value is such a document (`Document.holds_ofJson`).  It can be passed over, and the part
that stands for a field of a record holds the value's part (`Document.rel_part?_of_holds`).
-/
namespace PasskeyConsent

namespace Document

mutual

/-- Whether a document is a whole one and has a value's parts in their order, wherever they stand. -/
def Holds : Document → Json → Prop
  | .null _, .null => True
  | .bool _ a, .bool b => a = b
  | .int _ m, .int n => m = n
  | .float _ x, .float y => x = y
  | .str _ s, .str t => s = t
  | .arr _ depth ds close, .arr xs => depth ≤ depthLimit ∧ (∃ after, close = .sealed after) ∧ HoldItems ds xs
  | .obj _ depth ds close, .obj ms => depth ≤ depthLimit ∧ (∃ after, close = .sealed after) ∧ HoldMembers ds ms
  | _, _ => False

def HoldItems : List Document → List Json → Prop
  | [], [] => True
  | d :: ds, x :: xs => d.Holds x ∧ HoldItems ds xs
  | _, _ => False

def HoldMembers : List (Key × Document) → List (String × Json) → Prop
  | [], [] => True
  | (key, d) :: ds, (k, x) :: ms => key.name = .ok k ∧ d.Holds x ∧ HoldMembers ds ms
  | _, _ => False

end

variable {d : Document} {j : Json}

theorem exists_of_holds_null (h : d.Holds .null) : ∃ span, d = .null span := by
  cases d <;> first | exact ⟨_, rfl⟩ | (unfold Holds at h; cases h)

theorem exists_of_holds_int {n : Int} (h : d.Holds (.int n)) : ∃ span, d = .int span n := by
  cases d <;> unfold Holds at h <;> cases h
  exact ⟨_, rfl⟩

theorem exists_of_holds_str {s : String} (h : d.Holds (.str s)) : ∃ span, d = .str span s := by
  cases d <;> unfold Holds at h <;> cases h
  exact ⟨_, rfl⟩

theorem exists_of_holds_arr {xs : List Json} (h : d.Holds (.arr xs)) : ∃ peek depth ds after,
    d = .arr peek depth ds (.sealed after) ∧ depth ≤ depthLimit ∧ HoldItems ds xs := by
  cases d with
  | arr =>
    unfold Holds at h
    obtain ⟨hdepth, ⟨after, rfl⟩, hitems⟩ := h
    exact ⟨_, _, _, after, rfl, hdepth, hitems⟩
  | _ => unfold Holds at h; cases h

theorem exists_of_holds_obj {ms : List (String × Json)} (h : d.Holds (.obj ms)) : ∃ peek depth ds after,
    d = .obj peek depth ds (.sealed after) ∧ depth ≤ depthLimit ∧ HoldMembers ds ms := by
  cases d with
  | obj =>
    unfold Holds at h
    obtain ⟨hdepth, ⟨after, rfl⟩, hmembers⟩ := h
    exact ⟨_, _, _, after, rfl, hdepth, hmembers⟩
  | _ => unfold Holds at h; cases h

mutual

theorem holds_ofJson : ∀ j : Json, (ofJson j).Holds j
  | .null => trivial
  | .bool _ | .int _ | .float _ | .str _ => rfl
  | .arr items => ⟨Nat.zero_le _, ⟨none, rfl⟩, holdItems_ofItems items⟩
  | .obj members => ⟨Nat.zero_le _, ⟨none, rfl⟩, holdMembers_ofMembers members⟩

theorem holdItems_ofItems : ∀ items : List Json, HoldItems (ofJson.ofItems items) items
  | [] => trivial
  | x :: items => ⟨holds_ofJson x, holdItems_ofItems items⟩

theorem holdMembers_ofMembers : ∀ members : List (String × Json), HoldMembers (ofJson.ofMembers members) members
  | [] => trivial
  | (_, v) :: members => ⟨rfl, holds_ofJson v, holdMembers_ofMembers members⟩

end

mutual

/-- What holds a value can be passed over. -/
theorem skip_of_holds : ∀ {j : Json} {d : Document}, d.Holds j → d.skip = .ok ()
  | .null, d, h | .bool _, d, h | .int _, d, h | .float _, d, h | .str _, d, h => by
    cases d <;> first | rfl | (unfold Holds at h; cases h)
  | .arr xs, d, h => by
    obtain ⟨_, _, ds, _, rfl, -, hitems⟩ := exists_of_holds_arr h
    rw [skip, skipItems_of_hold hitems]
    rfl
  | .obj ms, d, h => by
    obtain ⟨_, _, ds, _, rfl, -, hmembers⟩ := exists_of_holds_obj h
    rw [skip, skipMembers_of_hold hmembers]
    rfl

theorem skipItems_of_hold : ∀ {xs : List Json} {ds : List Document}, HoldItems ds xs → skip.skipItems ds = .ok ()
  | [], [], _ => rfl
  | x :: xs, d :: ds, h => by
    obtain ⟨hd, hds⟩ := h
    rw [skip.skipItems, skip_of_holds hd]
    exact skipItems_of_hold hds

theorem skipMembers_of_hold : ∀ {ms : List (String × Json)} {ds : List (Key × Document)}, HoldMembers ds ms →
    skip.skipMembers ds = .ok ()
  | [], [], _ => rfl
  | (_, _) :: ms, (_, d) :: ds, h => by
    obtain ⟨-, hd, hds⟩ := h
    rw [skip.skipMembers, skip_of_holds hd]
    exact skipMembers_of_hold hds

end

theorem length_of_holdItems : ∀ {ds : List Document} {xs : List Json}, HoldItems ds xs → ds.length = xs.length
  | [], [], _ => rfl
  | _ :: _, _ :: _, h => congrArg (· + 1) (length_of_holdItems h.2)

theorem rel_getElem?_of_holdItems : ∀ {ds : List Document} {xs : List Json} (index : Nat), HoldItems ds xs →
    Option.Rel Holds ds[index]? xs[index]?
  | [], [], _, _ => .none
  | _ :: _, _ :: _, 0, h => .some h.1
  | _ :: _, _ :: _, index + 1, h => rel_getElem?_of_holdItems index h.2

theorem rel_named?_of_holdMembers (names : List String) : ∀ {ds : List (Key × Document)} {ms : List (String × Json)},
    HoldMembers ds ms → Option.Rel Holds (named? names ds) (Json.named? names ms)
  | [], [], _ => .none
  | (key, d) :: ds, (k, x) :: ms, h => by
    obtain ⟨hkey, hd, hds⟩ := h
    have hrest := rel_named?_of_holdMembers names hds
    rw [named?, Json.named?] at hrest ⊢
    rw [List.find?_cons, List.find?_cons, isNamed_of_ok hkey]
    cases names.contains k with
    | true => exact .some hd
    | false => exact hrest

theorem countP_of_holdMembers (names : List String) : ∀ {ds : List (Key × Document)} {ms : List (String × Json)},
    HoldMembers ds ms → (ds.countP fun m => isNamed names m.1) = ms.countP fun m => names.contains m.1
  | [], [], _ => rfl
  | (key, d) :: ds, (k, x) :: ms, h => by
    obtain ⟨hkey, -, hds⟩ := h
    rw [List.countP_cons, List.countP_cons, countP_of_holdMembers names hds, isNamed_of_ok hkey]

theorem mem_of_holdMembers : ∀ {ds : List (Key × Document)} {ms : List (String × Json)}, HoldMembers ds ms →
    ∀ m ∈ ds, m.2.skip = .ok () ∧ ∃ n ∈ ms, m.1.name = .ok n.1
  | [], [], _ => fun _ h => absurd h List.not_mem_nil
  | (key, d) :: ds, (k, x) :: ms, h => by
    obtain ⟨hkey, hd, hds⟩ := h
    refine List.forall_mem_cons.2 ⟨⟨skip_of_holds hd, (k, x), List.mem_cons_self, hkey⟩, fun m hm => ?_⟩
    obtain ⟨hskip, n, hn, hname⟩ := mem_of_holdMembers hds m hm
    exact ⟨hskip, n, List.mem_cons_of_mem _ hn, hname⟩

/-- The part that stands for a field holds the part of the value. -/
theorem rel_part?_of_holds (h : d.Holds j) (names : List String) (index : Nat) :
    Option.Rel Holds (d.part? names index) (j.part? names index) := by
  cases j with
  | arr xs =>
    obtain ⟨_, _, ds, _, rfl, -, hitems⟩ := exists_of_holds_arr h
    exact rel_getElem?_of_holdItems index hitems
  | obj ms =>
    obtain ⟨_, _, ds, _, rfl, -, hmembers⟩ := exists_of_holds_obj h
    exact rel_named?_of_holdMembers names hmembers
  | _ => cases d <;> first | exact .none | (unfold Holds at h; cases h)

end Document

end PasskeyConsent
