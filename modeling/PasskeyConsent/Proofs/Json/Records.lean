import PasskeyConsent.Proofs.Json.Members
/-!
# Records in documents

A record is read from an object by the names of its fields, or from an array by their order.  `Shape.reads_of_decode`
says what a document that has been read has for every field at once: the part that stands for it (`Document.part?`) has
been read to its value, or there is no such part and the value is the default.  `Codec.ofJson_encode` is the way back: a
record is read from what it is written as, if its fields are.
-/
namespace PasskeyConsent

/-! ## The part that stands for a field -/

namespace Document

/-- Whether a member has one of some names. -/
def isNamed (names : List String) (k : Key) : Bool := k.name.toOption.any (names.contains ·)

/-- The first member with one of some names. -/
def named? (names : List String) (members : List (Key × Document)) : Option Document :=
  (members.find? fun m => isNamed names m.1).map (·.2)

/-- The part of a document that stands for a field of a record: the member with one of its names, or the item at its
position. -/
def part? (names : List String) (index : Nat) : Document → Option Document
  | .obj _ _ members _ => named? names members
  | .arr _ _ items _ => items[index]?
  | _ => none

variable {names : List String} {members : List (Key × Document)} {k : Key} {d : Document} {name : String}

theorem isNamed_of_ok (h : k.name = .ok name) : isNamed names k = names.contains name := by
  rw [isNamed, h]
  rfl

theorem named?_snoc_of_not (h : isNamed names k = false) : named? names (members ++ [(k, d)]) = named? names members := by
  rw [named?, List.find?_append, List.find?_singleton, if_neg (by simp [h]), Option.or_none]
  rfl

theorem named?_eq_none_iff : named? names members = none ↔ (members.countP fun m => isNamed names m.1) = 0 := by
  rw [named?, Option.map_eq_none_iff, List.find?_eq_none, List.countP_eq_zero]

/-- A member is found under its name if no member before it has one of the names. -/
theorem named?_append_cons (hnone : named? names members = none) (h : isNamed names k = true) (rest : List (Key × Document)) :
    named? names (members ++ (k, d) :: rest) = some d := by
  rw [named?, List.find?_append, Option.map_eq_none_iff.1 hnone, Option.none_or, List.find?_cons, h]
  rfl

theorem ok_of_keyName (h : keyName k = .ok name) : k.name = .ok name := by
  unfold keyName at h
  split at h
  · rename_i hname
    rw [hname, Except.ok.inj h]
  · cases h

end Document

namespace Json

variable {key : String} {members : List (String × Json)}

/-- The first member with one of some names. -/
def named? (names : List String) (members : List (String × Json)) : Option Json :=
  (members.find? fun m => names.contains m.1).map (·.2)

/-- The part of a value that stands for a field of a record: the member with one of its names, or the item at its
position. -/
def part? (names : List String) (index : Nat) : Json → Option Json
  | .obj members => named? names members
  | .arr items => items[index]?
  | _ => none

theorem ofMembers_eq_map (members : List (String × Json)) :
    Document.ofJson.ofMembers members = members.map fun m => (⟨.ok m.1, none, none, none⟩, .ofJson m.2) := by
  induction members with
  | nil => rfl
  | cons m members ih => rw [Document.ofJson.ofMembers, ih, List.map_cons]

theorem ofItems_eq_map (items : List Json) : Document.ofJson.ofItems items = items.map .ofJson := by
  induction items with
  | nil => rfl
  | cons x items ih => rw [Document.ofJson.ofItems, ih, List.map_cons]

/-- The part of a document that is made of a value is made of the part of the value. -/
theorem part?_ofJson_eq (names : List String) (index : Nat) (j : Json) :
    (Document.ofJson j).part? names index = (j.part? names index).map .ofJson := by
  cases j with
  | arr items =>
    show (Document.ofJson.ofItems items)[index]? = items[index]?.map .ofJson
    rw [ofItems_eq_map, List.getElem?_map]
  | obj members =>
    show Document.named? names (Document.ofJson.ofMembers members) = (named? names members).map .ofJson
    rw [ofMembers_eq_map, Document.named?, named?, List.find?_map, Option.map_map, Option.map_map]
    rfl
  | _ => rfl

theorem named?_singleton (key : String) (members : List (String × Json)) : named? [key] members = lookup key members := by
  induction members with
  | nil => rfl
  | cons m members ih =>
    rw [named?] at ih
    rw [named?, List.find?_cons, lookup, ← ih]
    by_cases hk : m.1 = key <;> simp [hk]

/-- The part of a value that stands for a field with one name. -/
theorem part?_of_get? {j child : Json} {index : Nat} (h : j.get? key = some child) : j.part? [key] index = some child := by
  cases j with
  | obj members => exact (named?_singleton key members).trans h
  | _ => cases h

end Json

/-- What a field has been read to: its part's value or, without a part, its default. -/
def Field.Reads (f : Field α) (part : Option Document) (a : α) : Prop :=
  match part with
  | some d => f.codec.decode d = .ok a
  | none => f.default = some a

namespace Shape

/-- No name belongs to two fields, and every field is read under the name that it is written under. -/
def Distinct : {τ : Type} → Shape τ → Prop
  | _, .nil => True
  | _, .cons f rest => f.key ∈ f.names ∧ (∀ n ∈ f.names, n ∉ rest.names) ∧ rest.Distinct

/-- What every field of a record has been read to, from the field at `index` on. -/
def Reads : {τ : Type} → (s : Shape τ) → Nat → Option Document → τ → Prop
  | _, .nil, _, _, _ => True
  | _, .cons f rest, index, d, a =>
    f.Reads (d.bind (·.part? f.names index)) a.1 ∧ rest.Reads (index + 1) d a.2

/-- What has been read of each field once some members have been passed. -/
def Filled : {τ : Type} → (s : Shape τ) → List (Key × Document) → s.Slots → Prop
  | _, .nil, _, _ => True
  | _, .cons f rest, members, slots =>
    (match Document.named? f.names members with
      | some d => ∃ a, f.codec.decode d = .ok a ∧ slots.1 = some a
      | none => slots.1 = none) ∧ rest.Filled members slots.2

variable {τ : Type} {members : List (Key × Document)} {k : Key} {d : Document} {name : String}

theorem filled_empty : ∀ {τ : Type} (s : Shape τ), s.Filled [] s.empty
  | _, .nil => trivial
  | _, .cons _ rest => ⟨rfl, rest.filled_empty⟩

/-- A member under a name that no field has fills none. -/
theorem filled_snoc_of_not_mem (hk : k.name = .ok name) : ∀ {τ : Type} {s : Shape τ} {slots : s.Slots},
    name ∉ s.names → s.Filled members slots → s.Filled (members ++ [(k, d)]) slots
  | _, .nil, _, _, _ => trivial
  | _, .cons f rest, slots, hname, hfilled => by
    have hf : Document.isNamed f.names k = false := by
      rw [Document.isNamed_of_ok hk, List.contains_eq_mem, decide_eq_false]
      exact fun h => hname (List.mem_append_left _ h)
    refine ⟨?_, filled_snoc_of_not_mem hk (fun h => hname (List.mem_append_right _ h)) hfilled.2⟩
    rw [Document.named?_snoc_of_not hf]
    exact hfilled.1

theorem not_mem_of_put {place : Option Place} : ∀ {τ : Type} {s : Shape τ} {slots : s.Slots},
    s.put slots name place d = none → name ∉ s.names
  | _, .nil, _, _ => List.not_mem_nil
  | _, .cons f rest, slots, h => by
    rw [put] at h
    split at h
    · cases h
    · rename_i hf
      rw [List.contains_eq_mem, decide_eq_true_eq] at hf
      exact fun hmem => (List.mem_append.1 hmem).elim hf (not_mem_of_put (Option.map_eq_none_iff.1 h))

/-- As long as its slot is empty, no member had one of the field's names. -/
theorem named?_eq_none_of_filled {β : Type} {f : Field α} {rest : Shape β} {slots : (Shape.cons f rest).Slots}
    (h : (Shape.cons f rest).Filled members slots) (hs : slots.1 = none) : Document.named? f.names members = none := by
  cases hnamed : Document.named? f.names members with
  | none => rfl
  | some e =>
    have hslot := h.1
    rw [hnamed] at hslot
    obtain ⟨a, -, hfull⟩ := hslot
    rw [hs] at hfull
    cases hfull

/-- **A member that is put into its slot fills it.** -/
theorem filled_put (hk : k.name = .ok name) {place : Option Place} : ∀ {τ : Type} {s : Shape τ} {slots slots' : s.Slots},
    s.Distinct → s.Filled members slots → s.put slots name place d = some (.ok slots') →
      s.Filled (members ++ [(k, d)]) slots'
  | _, .nil, _, _, _, _, h => by cases h
  | _, .cons f rest, slots, slots', hdistinct, hfilled, h => by
    obtain ⟨-, hnames, hdistinct⟩ := hdistinct
    rw [put] at h
    split at h
    · rename_i hf
      have hnamed : Document.isNamed f.names k = true := by rw [Document.isNamed_of_ok hk, hf]
      cases hs : slots.1 with
      | some a =>
        rw [hs] at h
        cases Option.some.inj h
      | none =>
        rw [hs] at h
        cases hd : f.codec.decode d with
        | error e =>
          rw [hd] at h
          cases Option.some.inj h
        | ok a =>
          rw [hd] at h
          cases Option.some.inj h
          have hnone := named?_eq_none_of_filled hfilled hs
          refine ⟨?_, filled_snoc_of_not_mem hk (hnames name (by simpa using hf)) hfilled.2⟩
          rw [Document.named?_append_cons hnone hnamed]
          exact ⟨a, hd, rfl⟩
    · rename_i hf
      have hnamed : Document.isNamed f.names k = false := by
        rw [Document.isNamed_of_ok hk]
        exact Bool.eq_false_iff.2 hf
      obtain ⟨r, hput, hr⟩ := Option.map_eq_some_iff.1 h
      cases r with
      | error e => cases hr
      | ok others =>
        cases hr
        refine ⟨?_, filled_put hk hdistinct hfilled.2 hput⟩
        rw [Document.named?_snoc_of_not hnamed]
        exact hfilled.1

theorem filled_putMembers {s : Shape τ} {strict : Bool} (hdistinct : s.Distinct) :
    ∀ {rest before : List (Key × Document)} {slots slots' : s.Slots},
      s.Filled before slots → s.putMembers strict slots rest = .ok slots' → s.Filled (before ++ rest) slots'
  | [], before, slots, slots', hfilled, h => by
    cases h
    rw [List.append_nil]
    exact hfilled
  | (k, d) :: rest, before, slots, slots', hfilled, h => by
    rw [putMembers] at h
    obtain ⟨name, hname, h⟩ := ok_of_bind h
    have hk := Document.ok_of_keyName hname
    rw [List.append_cons]
    cases hput : s.put slots name k.after d with
    | some r =>
      rw [hput] at h
      obtain ⟨next, rfl, h⟩ := ok_of_bind h
      exact filled_putMembers hdistinct (filled_put hk hdistinct hfilled hput) h
    | none =>
      rw [hput] at h
      have hskipped : s.putMembers strict slots rest = .ok slots' := by
        cases strict with
        | true => cases h
        | false =>
          obtain ⟨-, -, h⟩ := ok_of_bind h
          exact h
      exact filled_putMembers hdistinct (filled_snoc_of_not_mem hk (not_mem_of_put hput) hfilled) hskipped

theorem reads_of_finish {peek : Option Place} {depth : Nat} {close : Close} {place : Option Place} :
    ∀ {τ : Type} {s : Shape τ} {slots : s.Slots} {a : τ} (index : Nat), s.Filled members slots →
      s.finish slots place = .ok a → s.Reads index (some (.obj peek depth members close)) a
  | _, .nil, _, _, _, _, _ => trivial
  | _, .cons f rest, slots, a, index, hfilled, h => by
    obtain ⟨hslot, hrest⟩ := hfilled
    rw [finish] at h
    cases hvalue : slots.1.or f.default with
    | none =>
      rw [hvalue] at h
      cases h
    | some b =>
      rw [hvalue] at h
      cases hothers : rest.finish slots.2 place with
      | error e =>
        rw [hothers] at h
        cases h
      | ok others =>
        rw [hothers] at h
        cases h
        refine ⟨?_, reads_of_finish (index + 1) hrest hothers⟩
        show f.Reads (Document.named? f.names members) b
        cases hnamed : Document.named? f.names members with
        | some d =>
          rw [hnamed] at hslot
          obtain ⟨c, hc, hs⟩ := hslot
          rw [hs] at hvalue
          cases hvalue
          exact hc
        | none =>
          rw [hnamed] at hslot
          rw [hslot] at hvalue
          exact hvalue

theorem reads_of_readItems {wanted : Wanted} {close close' : Close} {peek : Option Place} {depth : Nat} {all : List Document} :
    ∀ {τ : Type} {s : Shape τ} {index : Nat} {items left : List Document} {a : τ}, all.drop index = items →
      s.readItems wanted close index items = .ok (a, left) → s.Reads index (some (.arr peek depth all close')) a
  | _, .nil, _, _, _, _, _, _ => trivial
  | _, .cons f rest, index, d :: items, left, a, hall, h => by
    rw [readItems] at h
    obtain ⟨b, hb, h⟩ := ok_of_bind h
    obtain ⟨⟨others, left⟩, hothers, h⟩ := ok_of_bind h
    cases h
    have hitem : all[index]? = some d := by rw [← List.head?_drop, hall, List.head?_cons]
    refine ⟨?_, reads_of_readItems (by rw [← List.tail_drop, hall, List.tail_cons]) hothers⟩
    show f.Reads all[index]? b
    rw [hitem]
    exact hb
  | _, .cons f rest, index, [], left, a, hall, h => by
    rw [readItems] at h
    obtain ⟨-, -, h⟩ := ok_of_bind h
    cases hdefault : f.default with
    | none =>
      rw [hdefault] at h
      cases h
    | some b =>
      rw [hdefault] at h
      obtain ⟨⟨others, left⟩, hothers, h⟩ := ok_of_bind h
      cases h
      have hitem : all[index]? = none := by rw [← List.head?_drop, hall, List.head?_nil]
      refine ⟨?_, reads_of_readItems (by rw [← List.tail_drop, hall, List.tail_nil]) hothers⟩
      show f.Reads all[index]? b
      rw [hitem]
      exact hdefault

/-- **What a document that reads as a record has for every field of it.** -/
theorem reads_of_decode {title : String} {strict : Bool} {s : Shape τ} {a : τ} (hdistinct : s.Distinct)
    (h : s.decode title strict d = .ok a) : s.Reads 0 (some d) a := by
  unfold decode at h
  split at h
  · obtain ⟨-, -, h⟩ := ok_of_bind h
    obtain ⟨slots, hslots, h⟩ := ok_of_bind h
    obtain ⟨-, -, h⟩ := ok_of_bind h
    exact reads_of_finish 0 (filled_putMembers hdistinct s.filled_empty hslots) h
  · obtain ⟨-, -, h⟩ := ok_of_bind h
    obtain ⟨⟨b, left⟩, hitems, h⟩ := ok_of_bind h
    obtain ⟨-, -, h⟩ := ok_of_bind h
    cases h
    exact reads_of_readItems rfl hitems
  · unfold Document.mismatch at h
    split at h <;> cases h

end Shape

/-- What a document that has been read as a record has for every field of it. -/
theorem Codec.reads_of_record {σ τ : Type} {title : String} {s : Shape τ} {make : τ → σ} {fields : σ → τ} {a : σ}
    {d : Document} (hdistinct : s.Distinct) (hmake : ∀ t, fields (make t) = t)
    (h : (record title s make fields).decode d = .ok a) : s.Reads 0 (some d) (fields a) := by
  change (s.decode title false d).map make = .ok a at h
  cases ht : s.decode title false d with
  | error e =>
    rw [ht] at h
    cases h
  | ok t =>
    rw [ht] at h
    cases h
    rw [hmake]
    exact Shape.reads_of_decode hdistinct ht

/-- A field that holds a record, which is the default where there is none: what it has been read to, field by field. -/
theorem Field.reads_record {σ : Type} {s : Shape τ} {key title : String} {make : τ → σ} {fields : σ → τ} {default a : σ}
    {part : Option Document} (h : (Field.withDefault key (.record title s make fields) default).Reads part a)
    (hmake : ∀ t, fields (make t) = t) (hdistinct : s.Distinct) (hdefault : s.Reads 0 none (fields default)) :
    s.Reads 0 part (fields a) := by
  cases part with
  | none => exact Option.some.inj h ▸ hdefault
  | some d => exact Codec.reads_of_record hdistinct hmake h

/-! ## The way back -/

/-- Whether a value is read from what it is written as. -/
def Codec.ReadsBack (c : Codec α) (a : α) : Prop := c.ofJson (c.encode a) = .ok a

/-- Whether a field's value is read from what it is written as, or is the default if it is not written. -/
def Field.ReadsBack (f : Field α) (a : α) : Prop :=
  f.codec.ReadsBack a ∧ (f.hidden a = true → f.default = some a)

namespace Shape

def ReadsBack : {τ : Type} → Shape τ → τ → Prop
  | _, .nil, _ => True
  | _, .cons f rest, a => f.ReadsBack a.1 ∧ rest.ReadsBack a.2

/-- The names that the fields are written under. -/
def keys : {τ : Type} → Shape τ → List String
  | _, .nil => []
  | _, .cons f rest => f.key :: rest.keys

/-- The slots of a record of which the fields with some keys have been read. -/
def slotsOf (seen : List String) : {τ : Type} → (s : Shape τ) → τ → s.Slots
  | _, .nil, _ => ()
  | _, .cons f rest, a => (if f.key ∈ seen then some a.1 else none, rest.slotsOf seen a.2)

variable {τ : Type} {key : String} {j : Json}

theorem slotsOf_nil : ∀ {τ : Type} (s : Shape τ) (a : τ), s.slotsOf [] a = s.empty
  | _, .nil, _ => rfl
  | _, .cons _ rest, a => congrArg (none, ·) (rest.slotsOf_nil a.2)

theorem slotsOf_cons_of_not_mem {seen : List String} : ∀ {τ : Type} {s : Shape τ} {a : τ}, key ∉ s.keys →
    s.slotsOf (key :: seen) a = s.slotsOf seen a
  | _, .nil, _, _ => rfl
  | _, .cons f rest, a, h => by
    obtain ⟨hne, hrest⟩ := not_or.1 (mt List.mem_cons.2 h)
    simp only [slotsOf, List.mem_cons, Ne.symm hne, false_or, slotsOf_cons_of_not_mem hrest]

theorem keys_subset_names : ∀ {τ : Type} {s : Shape τ}, s.Distinct → s.keys ⊆ s.names
  | _, .nil, _ => List.Subset.refl _
  | _, .cons _ _, hdistinct => by
    obtain ⟨hkey, -, hdistinct⟩ := hdistinct
    exact List.cons_subset.2 ⟨List.mem_append_left _ hkey,
      List.Subset.trans (keys_subset_names hdistinct) (List.subset_append_right _ _)⟩

theorem mem_members_cons {α β : Type} {f : Field α} {rest : Shape β} {a : α × β} {m : String × Json} :
    m ∈ (Shape.cons f rest).members a ↔ (f.hidden a.1 = false ∧ m = (f.key, f.codec.encode a.1)) ∨ m ∈ rest.members a.2 := by
  rw [members, List.mem_append]
  cases f.hidden a.1 <;> simp

theorem mem_keys_of_mem_members {m : String × Json} : ∀ {τ : Type} {s : Shape τ} {a : τ}, m ∈ s.members a → m.1 ∈ s.keys
  | _, .nil, _, h => by cases h
  | _, .cons _ _, _, h => by
    rcases mem_members_cons.1 h with ⟨-, rfl⟩ | h
    · exact List.mem_cons_self
    · exact List.mem_cons_of_mem _ (mem_keys_of_mem_members h)

theorem nodup_keys_members : ∀ {τ : Type} {s : Shape τ} (a : τ), s.Distinct → ((s.members a).map (·.1)).Nodup
  | _, .nil, _, _ => List.nodup_nil
  | _, .cons f rest, a, hdistinct => by
    obtain ⟨hkey, hnames, hdistinct⟩ := hdistinct
    have hrest := nodup_keys_members a.2 hdistinct
    rw [members]
    cases f.hidden a.1 with
    | true => exact hrest
    | false =>
      refine List.nodup_cons.2 ⟨fun h => ?_, hrest⟩
      obtain ⟨m, hm, heq⟩ := List.mem_map.1 h
      have heq : m.1 = f.key := heq
      exact hnames _ hkey (heq ▸ keys_subset_names hdistinct (mem_keys_of_mem_members hm))

/-- **A member that a record is written with goes back into its slot.** -/
theorem put_member {seen : List String} {place : Option Place} (hseen : key ∉ seen) :
    ∀ {τ : Type} {s : Shape τ} {a : τ}, s.Distinct → s.ReadsBack a → (key, j) ∈ s.members a →
      s.put (s.slotsOf seen a) key place (.ofJson j) = some (.ok (s.slotsOf (key :: seen) a))
  | _, .nil, _, _, _, h => by cases h
  | _, .cons f rest, a, hdistinct, hback, h => by
    obtain ⟨hkey, hnames, hdistinct⟩ := hdistinct
    obtain ⟨⟨hfield, -⟩, hrest⟩ := hback
    have hothers {k : String} (hk : k ∈ rest.keys) : k ∉ f.names := fun hf =>
      hnames k hf (keys_subset_names hdistinct hk)
    rcases mem_members_cons.1 h with ⟨-, heq⟩ | hmem
    · cases heq
      have hdecode : f.codec.decode (.ofJson (f.codec.encode a.1)) = .ok a.1 := hfield
      rw [put, if_pos (List.contains_iff_mem.2 hkey)]
      simp only [slotsOf, if_neg hseen, hdecode, Except.map, if_pos List.mem_cons_self,
        slotsOf_cons_of_not_mem fun hk => hothers hk hkey]
    · have hk := mem_keys_of_mem_members hmem
      have hne : f.key ≠ key := fun heq => hothers hk (heq ▸ hkey)
      rw [put, if_neg fun hc => hothers hk (List.contains_iff_mem.1 hc)]
      simp only [slotsOf, put_member hseen hdistinct hrest hmem, Option.map_some, Except.map, List.mem_cons, hne, false_or]

theorem putMembers_cons (strict : Bool) {s : Shape τ} {slots slots' : s.Slots} {k : String} {j : Json}
    (h : s.put slots k none (.ofJson j) = some (.ok slots')) (ms : List (String × Json)) :
    s.putMembers strict slots (Document.ofJson.ofMembers ((k, j) :: ms)) =
      s.putMembers strict slots' (Document.ofJson.ofMembers ms) := by
  simp only [Document.ofJson.ofMembers, putMembers, Document.keyName, bind, Except.bind, h]

theorem putMembers_members (strict : Bool) {s : Shape τ} {a : τ} (hdistinct : s.Distinct) (hback : s.ReadsBack a)
    {ms : List (String × Json)} {seen : List String} (hms : ∀ m ∈ ms, m ∈ s.members a)
    (hnodup : (ms.map (·.1) ++ seen).Nodup) : ∃ all, (∀ m ∈ ms, m.1 ∈ all) ∧ seen ⊆ all ∧
      s.putMembers strict (s.slotsOf seen a) (Document.ofJson.ofMembers ms) = .ok (s.slotsOf all a) := by
  induction ms generalizing seen with
  | nil => exact ⟨seen, fun _ h => absurd h List.not_mem_nil, List.Subset.refl _, rfl⟩
  | cons m ms ih =>
    obtain ⟨k, j⟩ := m
    obtain ⟨hmem, hms⟩ := List.forall_mem_cons.1 hms
    have hnext : (ms.map (·.1) ++ k :: seen).Nodup := List.perm_middle.nodup_iff.2 hnodup
    have hk : k ∉ seen := fun hk => (List.nodup_cons.1 hnodup).1 (List.mem_append_right _ hk)
    obtain ⟨all, hall, hseen, hput⟩ := ih hms hnext
    refine ⟨all, List.forall_mem_cons.2 ⟨hseen List.mem_cons_self, hall⟩,
      fun _ h => hseen (List.mem_cons_of_mem _ h), ?_⟩
    rw [putMembers_cons strict (put_member hk hdistinct hback hmem), hput]

theorem finish_slotsOf {seen : List String} {place : Option Place} : ∀ {τ : Type} {s : Shape τ} {a : τ},
    s.ReadsBack a → (∀ m ∈ s.members a, m.1 ∈ seen) → s.finish (s.slotsOf seen a) place = .ok a
  | _, .nil, _, _, _ => rfl
  | _, .cons f rest, a, hback, hseen => by
    obtain ⟨⟨-, hhidden⟩, hback⟩ := hback
    have hvalue : (if f.key ∈ seen then some a.1 else none).or f.default = some a.1 := by
      split
      · rfl
      · rename_i hkey
        rw [Option.none_or]
        refine hhidden ?_
        cases hh : f.hidden a.1 with
        | true => rfl
        | false => exact absurd (hseen _ (mem_members_cons.2 (.inl ⟨hh, rfl⟩))) hkey
    rw [finish]
    simp only [slotsOf, hvalue, finish_slotsOf hback fun m hm => hseen m (mem_members_cons.2 (.inr hm)), Except.map]

/-- **A record is read from its members in any order**, if each of its fields is read from what it is written as. -/
theorem decode_of_perm {title : String} {strict : Bool} {s : Shape τ} {a : τ} (hdistinct : s.Distinct)
    (hback : s.ReadsBack a) {ms : List (String × Json)} (hms : ms.Perm (s.members a)) :
    s.decode title strict (.ofJson (.obj ms)) = .ok a := by
  have hnodup : (ms.map (·.1)).Nodup := (hms.map _).nodup_iff.2 (s.nodup_keys_members a hdistinct)
  obtain ⟨all, hall, -, hput⟩ := putMembers_members strict hdistinct hback (fun m hm => hms.mem_iff.1 hm)
    (by rwa [List.append_nil])
  rw [slotsOf_nil] at hput
  show (s.putMembers strict s.empty (Document.ofJson.ofMembers ms) >>= _) = _
  rw [hput]
  exact finish_slotsOf hback fun m hm => hall m (hms.mem_iff.2 hm)

end Shape

namespace Codec

section

variable {α τ : Type} {title : String} {s : Shape τ} {make : τ → α} {fields : α → τ} {a : α}

theorem ofJson_of_perm (hdistinct : s.Distinct) (hback : s.ReadsBack (fields a)) (hmake : make (fields a) = a)
    {ms : List (String × Json)} (hms : ms.Perm (s.members (fields a))) :
    (record title s make fields).ofJson (.obj ms) = .ok a := by
  show (s.decode title false (.ofJson (.obj ms))).map make = .ok a
  rw [Shape.decode_of_perm hdistinct hback hms, Except.map, hmake]

theorem readsBack_record (hdistinct : s.Distinct) (hback : s.ReadsBack (fields a)) (hmake : make (fields a) = a) :
    (record title s make fields).ReadsBack a :=
  ofJson_of_perm hdistinct hback hmake (Json.sortMembers_perm (s.nodup_keys_members (fields a) hdistinct))

end

theorem readsBack_string (s : String) : string.ReadsBack s := rfl

theorem readsBack_unsigned {wanted : Wanted} {limit n : Nat} (h : n ≤ limit) : (unsigned wanted limit).ReadsBack n := by
  show (if 0 ≤ (n : Int) ∧ (n : Int).toNat ≤ limit then _ else _) = _
  rw [if_pos ⟨Int.natCast_nonneg n, h⟩]
  rfl

theorem readsBack_imap {α β : Type} {f : α → β} {g : β → α} {c : Codec α} {b : β} (h : c.ReadsBack (g b)) (hfg : f (g b) = b) :
    (c.imap f g).ReadsBack b := by
  have h : c.decode (.ofJson (c.encode (g b))) = .ok (g b) := h
  show (c.decode (.ofJson (c.encode (g b)))).map f = .ok b
  rw [h, Except.map, hfg]

theorem readsBack_u64 (n : UInt64) : u64.ReadsBack n :=
  readsBack_imap (readsBack_unsigned (Nat.le_sub_one_of_lt n.toNat_lt)) (UInt64.ofNat_toNat)

theorem readsBack_u32 (n : UInt32) : u32.ReadsBack n :=
  readsBack_imap (readsBack_unsigned (Nat.le_sub_one_of_lt n.toNat_lt)) (UInt32.ofNat_toNat)

/-- What is optional is read back if it is not written as the null that stands for its absence. -/
theorem readsBack_optional {α : Type} {c : Codec α} : ∀ {o : Option α}, (∀ a ∈ o, c.ReadsBack a ∧ c.encode a ≠ .null) →
    c.optional.ReadsBack o
  | none, _ => rfl
  | some a, h => by
    obtain ⟨hback, hnull⟩ := h a rfl
    have hback : c.decode (.ofJson (c.encode a)) = .ok a := hback
    show c.optional.decode (.ofJson (c.encode a)) = .ok (some a)
    cases hj : c.encode a with
    | null => exact absurd hj hnull
    | _ =>
      rw [hj] at hback
      exact congrArg (·.map some) hback

end Codec

end PasskeyConsent
