import PasskeyConsent.Proofs.Json.Canonical
import PasskeyConsent.Proofs.Json.Holding
/-!
# Forms of values

What a codec reads from a value, said without the reader: a `Form` relates the values of JSON that are accepted to what
they stand for.  A record is an object in which no field stands twice or an array of its fields in order, and each field
has its own form or, where it is missing, its default (`Shape.decode_ofJson_iff`).
-/
namespace PasskeyConsent

/-! ## Parts of records -/

namespace Shape

variable {τ : Type} {members before rest : List (Key × Document)} {k : Key} {d : Document} {name : String}

/-- Whether no field of a record stands twice among some members. -/
def Single : {τ : Type} → Shape τ → List (Key × Document) → Prop
  | _, .nil, _ => True
  | _, .cons f rest, members => (members.countP fun m => Document.isNamed f.names m.1) ≤ 1 ∧ rest.Single members

theorem single_nil : ∀ {τ : Type} (s : Shape τ), s.Single []
  | _, .nil => trivial
  | _, .cons _ rest => ⟨Nat.zero_le 1, rest.single_nil⟩

theorem single_snoc_of_not_mem (hk : k.name = .ok name) : ∀ {τ : Type} {s : Shape τ}, name ∉ s.names →
    s.Single members → s.Single (members ++ [(k, d)])
  | _, .nil, _, _ => trivial
  | _, .cons f rest, hname, hsingle => by
    obtain ⟨hf, hrest⟩ := not_or.1 (mt List.mem_append.2 hname)
    have hnamed : Document.isNamed f.names k = false := by
      rw [Document.isNamed_of_ok hk, List.contains_eq_mem, decide_eq_false hf]
    refine ⟨?_, single_snoc_of_not_mem hk hrest hsingle.2⟩
    rw [List.countP_append, List.countP_singleton, hnamed]
    exact hsingle.1

/-- **A member that is put into its slot is the first of its field.** -/
theorem single_put (hk : k.name = .ok name) {place : Option Place} : ∀ {τ : Type} {s : Shape τ} {slots slots' : s.Slots},
    s.Distinct → s.Filled members slots → s.Single members → s.put slots name place d = some (.ok slots') →
      s.Single (members ++ [(k, d)])
  | _, .nil, _, _, _, _, _, h => by cases h
  | _, .cons f rest, slots, slots', hdistinct, hfilled, hsingle, h => by
    obtain ⟨-, hnames, hdistinct⟩ := hdistinct
    rw [put] at h
    split at h
    · rename_i hf
      refine ⟨?_, single_snoc_of_not_mem hk (hnames name (by simpa using hf)) hsingle.2⟩
      have hempty : slots.1 = none := by
        cases hs : slots.1 with
        | none => rfl
        | some a =>
          rw [hs] at h
          cases Option.some.inj h
      have hnone := named?_eq_none_of_filled hfilled hempty
      rw [List.countP_append, Document.named?_eq_none_iff.1 hnone, Nat.zero_add]
      exact List.countP_le_length
    · rename_i hf
      have hnamed : Document.isNamed f.names k = false := by
        rw [Document.isNamed_of_ok hk]
        exact Bool.eq_false_iff.2 hf
      obtain ⟨r, hput, hr⟩ := Option.map_eq_some_iff.1 h
      cases r with
      | error e => cases hr
      | ok others =>
        refine ⟨?_, single_put hk hdistinct hfilled.2 hsingle.2 hput⟩
        rw [List.countP_append, List.countP_singleton, hnamed]
        exact hsingle.1

theorem mem_of_put {place : Option Place} : ∀ {τ : Type} {s : Shape τ} {slots : s.Slots} {r : Except Fault s.Slots},
    s.put slots name place d = some r → name ∈ s.names
  | _, .nil, _, _, h => by cases h
  | _, .cons f rest, slots, r, h => by
    rw [put] at h
    split at h
    · rename_i hf
      exact List.mem_append_left _ (by simpa using hf)
    · obtain ⟨r, hput, -⟩ := Option.map_eq_some_iff.1 h
      exact List.mem_append_right _ (mem_of_put hput)

theorem single_putMembers {s : Shape τ} {strict : Bool} (hdistinct : s.Distinct) :
    ∀ {rest before : List (Key × Document)} {slots slots' : s.Slots}, s.Filled before slots → s.Single before →
      s.putMembers strict slots rest = .ok slots' →
        s.Single (before ++ rest) ∧ (strict = true → ∀ m ∈ rest, ∀ name, m.1.name = .ok name → name ∈ s.names)
  | [], before, _, _, _, hsingle, _ => by
    rw [List.append_nil]
    exact ⟨hsingle, fun _ _ h => absurd h List.not_mem_nil⟩
  | (k, d) :: rest, before, slots, slots', hfilled, hsingle, h => by
    rw [putMembers] at h
    obtain ⟨name, hname, h⟩ := ok_of_bind h
    have hk := Document.ok_of_keyName hname
    rw [List.append_cons]
    cases hput : s.put slots name k.after d with
    | some r =>
      rw [hput] at h
      obtain ⟨next, rfl, h⟩ := ok_of_bind h
      obtain ⟨hall, hknown⟩ := single_putMembers hdistinct (filled_put hk hdistinct hfilled hput)
        (single_put hk hdistinct hfilled hsingle hput) h
      refine ⟨hall, fun hstrict => List.forall_mem_cons.2 ⟨fun name' hname' => ?_, hknown hstrict⟩⟩
      rw [hk] at hname'
      exact Except.ok.inj hname' ▸ mem_of_put hput
    | none =>
      rw [hput] at h
      have hunknown := not_mem_of_put hput
      cases strict with
      | true => cases h
      | false =>
        obtain ⟨-, -, h⟩ := ok_of_bind h
        obtain ⟨hall, -⟩ := single_putMembers hdistinct (filled_snoc_of_not_mem hk hunknown hfilled)
          (single_snoc_of_not_mem hk hunknown hsingle) h
        exact ⟨hall, fun hstrict => absurd hstrict Bool.false_ne_true⟩

variable {peek : Option Place} {depth : Nat} {close : Close} {place : Option Place}

/-- **The first member of a field is put into its slot** if it is read. -/
theorem exists_put (hk : k.name = .ok name) : ∀ {τ : Type} {s : Shape τ} {slots : s.Slots} {index : Nat} {a : τ},
    s.Filled before slots → s.Single (before ++ (k, d) :: rest) →
      s.Reads index (some (.obj peek depth (before ++ (k, d) :: rest) close)) a → name ∈ s.names →
        ∃ slots', s.put slots name place d = some (.ok slots')
  | _, .nil, _, _, _, _, _, _, h => absurd h List.not_mem_nil
  | _, .cons f rest', slots, index, a, hfilled, hsingle, hreads, hname => by
    obtain ⟨hslot, hfilled⟩ := hfilled
    obtain ⟨hcount, hsingle⟩ := hsingle
    obtain ⟨hread, hreads⟩ := hreads
    rw [put]
    by_cases hf : f.names.contains name = true
    · have hnamed : Document.isNamed f.names k = true := by rw [Document.isNamed_of_ok hk, hf]
      have hnone : Document.named? f.names before = none := by
        rw [Document.named?_eq_none_iff]
        rw [List.countP_append, List.countP_cons, hnamed, if_pos rfl] at hcount
        omega
      have hdecode : f.codec.decode d = .ok a.1 := by
        change f.Reads (Document.named? f.names (before ++ (k, d) :: rest)) a.1 at hread
        rwa [Document.named?_append_cons hnone hnamed] at hread
      rw [hnone] at hslot
      rw [if_pos hf, hslot, hdecode]
      exact ⟨_, rfl⟩
    · have hname : name ∈ rest'.names := (List.mem_append.1 hname).resolve_left (by simpa using hf)
      obtain ⟨others, hput⟩ := exists_put hk hfilled hsingle hreads hname
      rw [if_neg hf, hput]
      exact ⟨_, rfl⟩

theorem put_eq_none : ∀ {τ : Type} {s : Shape τ} {slots : s.Slots}, name ∉ s.names → s.put slots name place d = none
  | _, .nil, _, _ => rfl
  | _, .cons f rest, slots, h => by
    obtain ⟨hf, hrest⟩ := not_or.1 (mt List.mem_append.2 h)
    rw [put, if_neg (by simpa using hf), put_eq_none hrest]
    rfl

/-- **Members are put into the slots** if no field stands twice, each is read, and all that are not known can be passed
over. -/
theorem exists_putMembers {s : Shape τ} {strict : Bool} {index : Nat} {a : τ} (hdistinct : s.Distinct) :
    ∀ {rest before : List (Key × Document)} {slots : s.Slots}, s.Filled before slots → s.Single (before ++ rest) →
      s.Reads index (some (.obj peek depth (before ++ rest) close)) a →
        (∀ m ∈ rest, m.2.skip = .ok () ∧ ∃ name, m.1.name = .ok name ∧ (strict = true → name ∈ s.names)) →
          ∃ slots', s.putMembers strict slots rest = .ok slots'
  | [], _, slots, _, _, _, _ => ⟨slots, rfl⟩
  | (k, d) :: rest, before, slots, hfilled, hsingle, hreads, hmembers => by
    obtain ⟨⟨hskip, name, hk, hknown⟩, hmembers⟩ := List.forall_mem_cons.1 hmembers
    have hname : Document.keyName k = .ok name := by rw [Document.keyName, hk]
    have hsplit : before ++ (k, d) :: rest = (before ++ [(k, d)]) ++ rest := List.append_cons _ _ _
    by_cases hmem : name ∈ s.names
    · obtain ⟨slots', hput⟩ : ∃ slots', s.put slots name k.after d = some (.ok slots') :=
        exists_put hk hfilled hsingle hreads hmem
      rw [hsplit] at hsingle hreads
      obtain ⟨all, hall⟩ := exists_putMembers hdistinct (filled_put hk hdistinct hfilled hput) hsingle hreads hmembers
      refine ⟨all, ?_⟩
      simp only [putMembers, hname, hput, bind, Except.bind]
      exact hall
    · rw [hsplit] at hsingle hreads
      obtain ⟨all, hall⟩ := exists_putMembers hdistinct (filled_snoc_of_not_mem hk hmem hfilled) hsingle hreads hmembers
      have hstrict : strict = false := Bool.eq_false_iff.2 fun h => hmem (hknown h)
      refine ⟨all, ?_⟩
      simp only [putMembers, hname, put_eq_none hmem, hskip, bind, Except.bind]
      rw [if_neg (by simp [hstrict]), hall]

theorem finish_of_reads : ∀ {τ : Type} {s : Shape τ} {slots : s.Slots} {index : Nat} {a : τ}, s.Filled members slots →
    s.Reads index (some (.obj peek depth members close)) a → s.finish slots place = .ok a
  | _, .nil, _, _, _, _, _ => rfl
  | _, .cons f rest, slots, index, a, hfilled, hreads => by
    obtain ⟨hslot, hfilled⟩ := hfilled
    obtain ⟨hread, hreads⟩ := hreads
    change f.Reads (Document.named? f.names members) a.1 at hread
    have hvalue : slots.1.or f.default = some a.1 := by
      cases hnamed : Document.named? f.names members with
      | none =>
        rw [hnamed] at hslot hread
        rw [hslot, Option.none_or]
        exact hread
      | some d =>
        rw [hnamed] at hslot hread
        obtain ⟨b, hb, hs⟩ := hslot
        rw [hs, Option.some_or, ← Except.ok.inj (hb.symm.trans hread)]
    rw [finish, hvalue, finish_of_reads hfilled hreads]
    rfl

variable {wanted : Wanted} {all items left : List Document}

theorem left_of_readItems : ∀ {τ : Type} {s : Shape τ} {index : Nat} {items left : List Document} {a : τ},
    s.readItems wanted close index items = .ok (a, left) → left = items.drop s.size
  | _, .nil, _, _, _, _, h => by
    cases h
    rfl
  | _, .cons f rest, _, d :: items, _, _, h => by
    rw [readItems] at h
    obtain ⟨b, -, h⟩ := ok_of_bind h
    obtain ⟨⟨others, left⟩, hothers, h⟩ := ok_of_bind h
    cases h
    rw [left_of_readItems hothers, size, List.drop_succ_cons]
  | _, .cons f rest, _, [], _, _, h => by
    rw [readItems] at h
    obtain ⟨-, -, h⟩ := ok_of_bind h
    cases hdefault : f.default with
    | none =>
      rw [hdefault] at h
      cases h
    | some b =>
      rw [hdefault] at h
      obtain ⟨⟨others, left⟩, hothers, h⟩ := ok_of_bind h
      cases h
      rw [left_of_readItems hothers, List.drop_nil, List.drop_nil]

theorem readItems_of_reads (hclose : close.reading false = none) : ∀ {τ : Type} {s : Shape τ} {index : Nat}
    {items : List Document} {a : τ}, all.drop index = items → s.Reads index (some (.arr peek depth all close)) a →
      s.readItems wanted close index items = .ok (a, items.drop s.size)
  | _, .nil, _, _, _, _, _ => rfl
  | _, .cons f rest, index, d :: items, a, hall, h => by
    obtain ⟨hread, hreads⟩ := h
    have hitem : all[index]? = some d := by rw [← List.head?_drop, hall, List.head?_cons]
    have hothers := readItems_of_reads hclose (by rw [← List.tail_drop, hall, List.tail_cons]) hreads
    change f.Reads all[index]? a.1 at hread
    rw [hitem] at hread
    have hdecode : f.codec.decode d = .ok a.1 := hread
    simp only [readItems, hdecode, hothers, bind, Except.bind]
    rfl
  | _, .cons f rest, index, [], a, hall, h => by
    obtain ⟨hread, hreads⟩ := h
    have hitem : all[index]? = none := by rw [← List.head?_drop, hall, List.head?_nil]
    have hothers := readItems_of_reads hclose (by rw [← List.tail_drop, hall, List.tail_nil]) hreads
    change f.Reads all[index]? a.1 at hread
    rw [hitem] at hread
    have hdefault : f.default = some a.1 := hread
    simp only [readItems, hclose, orFault, hdefault, hothers, bind, Except.bind]
    rw [List.drop_nil, List.drop_nil]
    rfl

end Shape

/-! ## Values that make a record -/

namespace Json

variable {names : List String} {members : List (String × Json)}

/-- Whether a value can make a record with fields of some names: an object in which no field stands twice, and nothing
but fields if the record is a strict one, or an array without more items than fields. -/
def MakesRecord (fields : List (List String)) (strict : Bool) : Json → Prop
  | .obj members =>
    (∀ names ∈ fields, (members.countP fun m => names.contains m.1) ≤ 1) ∧
      (strict = true → ∀ m ∈ members, ∃ names ∈ fields, m.1 ∈ names)
  | .arr items => items.length ≤ fields.length
  | _ => False

end Json

namespace Shape

variable {τ : Type} {d : Document} {j : Json}

/-- The names that each field is read under. -/
def fieldNames : {τ : Type} → Shape τ → List (List String)
  | _, .nil => []
  | _, .cons f rest => f.names :: rest.fieldNames

theorem length_fieldNames : ∀ {τ : Type} (s : Shape τ), s.fieldNames.length = s.size
  | _, .nil => rfl
  | _, .cons _ rest => congrArg (· + 1) rest.length_fieldNames

theorem mem_names_iff {name : String} : ∀ {τ : Type} {s : Shape τ}, name ∈ s.names ↔ ∃ names ∈ s.fieldNames, name ∈ names
  | _, .nil => by simp [names, fieldNames]
  | _, .cons f rest => by simp [names, fieldNames, mem_names_iff (s := rest)]

/-- That no field stands twice among members is a matter of their names. -/
theorem single_iff {ds : List (Key × Document)} {members : List (String × Json)} (h : Document.HoldMembers ds members) :
    ∀ {τ : Type} {s : Shape τ}, s.Single ds ↔ ∀ names ∈ s.fieldNames, (members.countP fun m => names.contains m.1) ≤ 1
  | _, .nil => by simp [Single, fieldNames]
  | _, .cons f rest => by rw [Single, fieldNames, List.forall_mem_cons, Document.countP_of_holdMembers _ h, single_iff h]

variable {title : String} {strict : Bool} {s : Shape τ} {a : τ}

/-- **A record is read from a document that holds a value that makes one**, if each of its fields is. -/
theorem decode_of_holds (hdistinct : s.Distinct) (hd : d.Holds j) (hmakes : j.MakesRecord s.fieldNames strict)
    (hreads : s.Reads 0 (some d) a) : s.decode title strict d = .ok a := by
  cases j with
  | obj ms =>
    obtain ⟨hcount, hknown⟩ := hmakes
    obtain ⟨peek, depth, ds, after, rfl, hdepth, hmembers⟩ := Document.exists_of_holds_obj hd
    have hall : ∀ m ∈ ds, m.2.skip = .ok () ∧ ∃ name, m.1.name = .ok name ∧ (strict = true → name ∈ s.names) := by
      intro m hm
      obtain ⟨hskip, n, hn, hname⟩ := Document.mem_of_holdMembers hmembers m hm
      exact ⟨hskip, n.1, hname, fun hstrict => mem_names_iff.2 (hknown hstrict n hn)⟩
    obtain ⟨slots, hslots⟩ := exists_putMembers hdistinct s.filled_empty ((single_iff hmembers).2 hcount) hreads hall
    have hfinish : s.finish slots after = .ok a := finish_of_reads (filled_putMembers hdistinct s.filled_empty hslots) hreads
    rw [decode, Document.depthFault, if_pos hdepth, hslots]
    exact hfinish
  | arr xs =>
    obtain ⟨peek, depth, ds, after, rfl, hdepth, hitems⟩ := Document.exists_of_holds_arr hd
    rw [Json.MakesRecord, length_fieldNames, ← Document.length_of_holdItems hitems, ← List.drop_eq_nil_iff] at hmakes
    have hread : s.readItems (.elements "struct" title s.size) (.sealed after) 0 ds = .ok (a, ds.drop s.size) :=
      readItems_of_reads rfl List.drop_zero hreads
    rw [hmakes] at hread
    rw [decode, Document.depthFault, if_pos hdepth, hread]
    rfl
  | _ => exact hmakes.elim

/-- What is read as a record makes one. -/
theorem makesRecord_of_decode (hdistinct : s.Distinct) (h : s.decode title strict (.ofJson j) = .ok a) :
    j.MakesRecord s.fieldNames strict := by
  cases j with
  | obj members =>
    obtain ⟨-, -, h⟩ := ok_of_bind h
    obtain ⟨slots, hslots, h⟩ := ok_of_bind h
    obtain ⟨hsingle, hknown⟩ := single_putMembers hdistinct s.filled_empty s.single_nil hslots
    refine ⟨(single_iff (Document.holdMembers_ofMembers members)).1 hsingle, fun hstrict m hm =>
      mem_names_iff.1 (hknown hstrict (⟨.ok m.1, none, none, none⟩, .ofJson m.2) ?_ m.1 rfl)⟩
    rw [Json.ofMembers_eq_map]
    exact List.mem_map_of_mem hm
  | arr items =>
    obtain ⟨-, -, h⟩ := ok_of_bind h
    obtain ⟨⟨b, left⟩, hitems, h⟩ := ok_of_bind h
    obtain ⟨⟨⟩, hend, -⟩ := ok_of_bind h
    rw [left_of_readItems hitems] at hend
    rw [Json.MakesRecord, length_fieldNames, ← Document.length_of_holdItems (Document.holdItems_ofItems items),
      ← List.drop_eq_nil_iff]
    cases hleft : (Document.ofJson.ofItems items).drop s.size with
    | nil => rfl
    | cons d left =>
      have hsealed : Close.sealed none ≠ .lax := by
        intro h
        cases h
      rw [hleft, endItems, if_neg hsealed] at hend
      cases hpeek : d.peek? <;> rw [hpeek] at hend <;> cases hend
  | _ => cases h

/-- **Which values are read as a record**, and to what. -/
theorem decode_ofJson_iff (hdistinct : s.Distinct) :
    s.decode title strict (.ofJson j) = .ok a ↔ j.MakesRecord s.fieldNames strict ∧ s.Reads 0 (some (.ofJson j)) a := by
  constructor
  · exact fun h => ⟨makesRecord_of_decode hdistinct h, reads_of_decode hdistinct h⟩
  · rintro ⟨hmakes, hreads⟩
    exact decode_of_holds hdistinct (Document.holds_ofJson j) hmakes hreads

end Shape

/-! ## Forms -/

/-- What the values of JSON are that stand for something of a type. -/
abbrev Form (α : Type) := Json → α → Prop

namespace Form

variable {α : Type}

/-- Any value stands for itself, with the members of every object in key order. -/
def any : Form Json := fun j a => a = j.canonical

def string : Form String := fun j s => j = .str s

def u32 : Form UInt32 := fun j n => j = .int n.toNat

def u64 : Form UInt64 := fun j n => j = .int n.toNat

/-- The name of a constructor, or an object with the name as only key and null under it. -/
def oneOf (names : List (String × α)) : Form α := fun j a =>
  ∃ name, names.lookup name = some a ∧ (j = .str name ∨ j = .obj [(name, .null)])

def array (F : Form α) : Form (List α) := fun j as => ∃ items, j = .arr items ∧ List.Forall₂ F items as

/-- Null, or something of another form. -/
def nullable (F : Form α) : Form (Option α) := fun j o => (j = .null ∧ o = none) ∨ (j ≠ .null ∧ ∃ a, F j a ∧ o = some a)

/-- A part of a record that has to be there. -/
def required (F : Form α) (part : Option Json) (a : α) : Prop := ∃ j, part = some j ∧ F j a

/-- A part of a record that can be missing, which then stands for something. -/
def orDefault (F : Form α) (default : α) (part : Option Json) (a : α) : Prop :=
  (part = none ∧ a = default) ∨ ∃ j, part = some j ∧ F j a

end Form

/-- Whether a codec reads the values of a form, and to what they stand for. -/
def Codec.HasForm {α : Type} (c : Codec α) (F : Form α) : Prop := ∀ j a, c.ofJson j = .ok a ↔ F j a

namespace Json

mutual

theorem toJson_ofJson : ∀ j : Json, (Document.ofJson j).toJson = .ok j.canonical
  | .null | .bool _ | .int _ | .float _ | .str _ => rfl
  | .arr items => by
    rw [Document.ofJson, Document.toJson, itemsToJson_ofItems items]
    rfl
  | .obj members => by
    rw [Document.ofJson, Document.toJson, membersToJson_ofMembers members]
    rfl

theorem itemsToJson_ofItems : ∀ items : List Json,
    Document.toJson.itemsToJson (Document.ofJson.ofItems items) = .ok (canonical.canonicalItems items)
  | [] => rfl
  | x :: items => by
    rw [Document.ofJson.ofItems, Document.toJson.itemsToJson, toJson_ofJson x, itemsToJson_ofItems items]
    rfl

theorem membersToJson_ofMembers : ∀ members : List (String × Json),
    Document.toJson.membersToJson (Document.ofJson.ofMembers members) = .ok (canonical.canonicalMembers members)
  | [] => rfl
  | (k, v) :: members => by
    rw [Document.ofJson.ofMembers, Document.toJson.membersToJson, toJson_ofJson v, membersToJson_ofMembers members]
    rfl

end

end Json

namespace Codec

open Document

variable {α : Type} {c : Codec α} {F : Form α}

theorem hasForm_json : json.HasForm .any := by
  intro j a
  show (Document.ofJson j).toJson = .ok a ↔ a = j.canonical
  rw [Json.toJson_ofJson, Except.ok.injEq, eq_comm]

theorem hasForm_string : string.HasForm .string := by
  intro j s
  cases j with
  | str t => exact ⟨fun h => congrArg Json.str (Except.ok.inj h), fun h => congrArg Except.ok (Json.str.inj h)⟩
  | _ => exact ⟨nofun, nofun⟩

theorem unsigned_eq_ok_iff {wanted : Wanted} {limit n : Nat} {j : Json} :
    (unsigned wanted limit).ofJson j = .ok n ↔ j = .int n ∧ n ≤ limit := by
  cases j with
  | int k =>
    show (if 0 ≤ k ∧ k.toNat ≤ limit then Except.ok k.toNat else _) = Except.ok n ↔ _
    rw [Json.int.injEq]
    split
    · rw [Except.ok.injEq]
      omega
    · refine ⟨nofun, fun h => ?_⟩
      omega
  | _ => exact ⟨nofun, nofun⟩

theorem map_eq_ok_iff {β : Type} {x : Except Fault α} {f : α → β} {b : β} : x.map f = .ok b ↔ ∃ a, x = .ok a ∧ f a = b := by
  cases x with
  | error e => exact ⟨nofun, fun ⟨_, h, _⟩ => nomatch h⟩
  | ok a => simp [Except.map]

theorem hasForm_u32 : u32.HasForm .u32 := by
  intro j n
  show ((unsigned .u32 Text.maxU32).ofJson j).map UInt32.ofNat = .ok n ↔ j = .int n.toNat
  simp only [map_eq_ok_iff, unsigned_eq_ok_iff]
  constructor
  · rintro ⟨k, ⟨rfl, hk⟩, rfl⟩
    rw [UInt32.toNat_ofNat_of_lt' (Nat.lt_succ_of_le hk)]
  · rintro rfl
    exact ⟨n.toNat, ⟨rfl, Nat.le_of_lt_succ n.toNat_lt⟩, UInt32.ofNat_toNat⟩

theorem hasForm_u64 : u64.HasForm .u64 := by
  intro j n
  show ((unsigned .u64 Text.maxU64).ofJson j).map UInt64.ofNat = .ok n ↔ j = .int n.toNat
  simp only [map_eq_ok_iff, unsigned_eq_ok_iff]
  constructor
  · rintro ⟨k, ⟨rfl, hk⟩, rfl⟩
    rw [UInt64.toNat_ofNat_of_lt' (Nat.lt_succ_of_le hk)]
  · rintro rfl
    exact ⟨n.toNat, ⟨rfl, Nat.le_of_lt_succ n.toNat_lt⟩, UInt64.ofNat_toNat⟩

theorem decodeItems_eq_ok_iff (h : c.HasForm F) : ∀ {items : List Json} {as : List α},
    decodeItems c.decode (ofJson.ofItems items) = .ok as ↔ List.Forall₂ F items as
  | [], as => by
    rw [List.forall₂_nil_left_iff]
    exact ⟨fun h => (Except.ok.inj h).symm, fun h => congrArg Except.ok h.symm⟩
  | x :: items, as => by
    have hx := h x
    change ∀ a, c.decode (.ofJson x) = .ok a ↔ F x a at hx
    rw [List.forall₂_cons_left_iff, ofJson.ofItems, decodeItems]
    constructor
    · intro heq
      obtain ⟨a, ha, heq⟩ := ok_of_bind heq
      obtain ⟨as, has, heq⟩ := ok_of_bind heq
      cases heq
      exact ⟨a, as, (hx a).1 ha, (decodeItems_eq_ok_iff h).1 has, rfl⟩
    · rintro ⟨a, as, ha, has, rfl⟩
      rw [(hx a).2 ha, (decodeItems_eq_ok_iff h).2 has]
      rfl

theorem hasForm_array (h : c.HasForm F) : c.array.HasForm (.array F) := by
  intro j as
  cases j with
  | arr items =>
    have harray : c.array.ofJson (.arr items) = decodeItems c.decode (ofJson.ofItems items) := by
      show (decodeItems c.decode (ofJson.ofItems items) >>= fun as => Except.ok as) = _
      cases decodeItems c.decode (ofJson.ofItems items) <;> rfl
    rw [harray, decodeItems_eq_ok_iff h]
    exact ⟨fun h => ⟨items, rfl, h⟩, fun ⟨_, heq, h⟩ => Json.arr.inj heq ▸ h⟩
  | _ => exact ⟨nofun, fun ⟨_, heq, _⟩ => nomatch heq⟩

theorem hasForm_optional (h : c.HasForm F) : c.optional.HasForm (.nullable F) := by
  intro j o
  by_cases hnull : j = .null
  · subst hnull
    constructor
    · intro heq
      exact .inl ⟨rfl, (Except.ok.inj heq).symm⟩
    · rintro (⟨-, rfl⟩ | ⟨hne, -⟩)
      · rfl
      · exact absurd rfl hne
  · have hoptional : c.optional.ofJson j = (c.ofJson j).map some := by
      cases j <;> first | rfl | exact absurd rfl hnull
    rw [hoptional, map_eq_ok_iff]
    constructor
    · rintro ⟨a, ha, rfl⟩
      exact .inr ⟨hnull, a, (h j a).1 ha, rfl⟩
    · rintro (⟨heq, -⟩ | ⟨-, a, ha, rfl⟩)
      · exact absurd heq hnull
      · exact ⟨a, (h j a).2 ha, rfl⟩

theorem variant_eq_ok_iff {names : List (String × α)} {name : String} {place : Option Place} {a : α} :
    variant names name place = .ok a ↔ names.lookup name = some a := by
  unfold variant
  cases names.lookup name <;> simp

theorem hasForm_enumeration [BEq α] (names : List (String × α)) : (enumeration names).HasForm (.oneOf names) := by
  intro j a
  cases j with
  | str name =>
    refine variant_eq_ok_iff.trans ⟨fun h => ⟨name, h, .inl rfl⟩, ?_⟩
    rintro ⟨name', h, heq | heq⟩
    · exact Json.str.inj heq ▸ h
    · cases heq
  | obj members =>
    constructor
    · intro h
      rcases members with _ | ⟨⟨name, v⟩, _ | ⟨_, _⟩⟩
      · cases h
      · obtain ⟨_, hname, h⟩ := ok_of_bind h
        cases hname
        obtain ⟨b, hb, h⟩ := ok_of_bind h
        cases v with
        | null =>
          cases h
          exact ⟨name, variant_eq_ok_iff.1 hb, .inr rfl⟩
        | arr items => cases items <;> cases h
        | obj members => cases members <;> cases h
        | _ => cases h
      · cases h
    · rintro ⟨name, h, heq | heq⟩
      · cases heq
      · cases heq
        show (variant names name none >>= _) = _
        rw [variant_eq_ok_iff.2 h]
        rfl
  | _ =>
    refine ⟨nofun, ?_⟩
    rintro ⟨_, -, heq | heq⟩ <;> cases heq

/-- A constructor that is read from a name is written as the name if no other name is its own. -/
theorem encode_of_ofJson_str [BEq α] [LawfulBEq α] {names : List (String × α)} {name : String} {a : α}
    (hnames : (names.map (·.2)).Nodup) (h : (enumeration names).ofJson (.str name) = .ok a) :
    (enumeration names).encode a = .str name := by
  obtain ⟨before, after, rfl, -⟩ := List.lookup_eq_some_iff.1 (variant_eq_ok_iff.1 h)
  have hbefore : ∀ p ∈ before, ¬(p.2 == a) = true := by
    intro p hp heq
    rw [List.map_append, List.map_cons, List.nodup_append] at hnames
    exact hnames.2.2 p.2 (List.mem_map_of_mem hp) a List.mem_cons_self (eq_of_beq heq)
  have hfind : (before ++ (name, a) :: after).find? (fun p => p.2 == a) = some (name, a) := by
    rw [List.find?_append, List.find?_eq_none.2 hbefore, Option.none_or, List.find?_cons, beq_self_eq_true]
  show Json.str ((((before ++ (name, a) :: after).find? fun p => p.2 == a).map (·.1)).getD "") = _
  rw [hfind]
  rfl

end Codec

/-! ## Forms of records -/

namespace Field

variable {α : Type} {c : Codec α} {F : Form α} {part : Option Json}

theorem reads_required_iff {key : String} {a : α} (h : c.HasForm F) :
    (Field.required key c).Reads (part.map .ofJson) a ↔ Form.required F part a := by
  cases part with
  | none => exact ⟨nofun, fun ⟨_, h, _⟩ => nomatch h⟩
  | some j => exact (h j a).trans ⟨fun h => ⟨j, rfl, h⟩, fun ⟨_, heq, h⟩ => Option.some.inj heq ▸ h⟩

theorem reads_orDefault_iff {f : Field α} {default a : α} (h : f.codec.HasForm F) (hdefault : f.default = some default) :
    f.Reads (part.map .ofJson) a ↔ Form.orDefault F default part a := by
  cases part with
  | none =>
    show f.default = some a ↔ _
    rw [hdefault, Option.some_inj]
    exact ⟨fun h => .inl ⟨rfl, h.symm⟩, fun h => h.elim (fun h => h.2.symm) fun ⟨_, h, _⟩ => nomatch h⟩
  | some j =>
    refine (h j a).trans ⟨fun h => .inr ⟨j, rfl, h⟩, ?_⟩
    rintro (⟨heq, -⟩ | ⟨_, heq, h⟩)
    · cases heq
    · exact Option.some.inj heq ▸ h

theorem reads_withDefault_iff {key : String} {default a : α} (h : c.HasForm F) :
    (Field.withDefault key c default).Reads (part.map .ofJson) a ↔ Form.orDefault F default part a :=
  reads_orDefault_iff h rfl

theorem reads_nullable_iff {key : String} {o : Option α} (h : c.HasForm F) :
    (Field.nullable key c).Reads (part.map .ofJson) o ↔ Form.orDefault (.nullable F) none part o :=
  reads_orDefault_iff (Codec.hasForm_optional h) rfl

end Field

theorem Shape.reads_nil_iff {index : Nat} {d : Option Document} {a : Unit} : Shape.nil.Reads index d a ↔ True := Iff.rfl

theorem Shape.reads_cons_iff {α β : Type} {f : Field α} {rest : Shape β} {index : Nat} {j : Json} {a : α × β} :
    (Shape.cons f rest).Reads index (some (.ofJson j)) a ↔
      f.Reads ((j.part? f.names index).map .ofJson) a.1 ∧ rest.Reads (index + 1) (some (.ofJson j)) a.2 := by
  rw [Reads, Option.bind_some, Json.part?_ofJson_eq]

section

variable {α τ : Type} {title : String} {s : Shape τ} {make : τ → α} {fields : α → τ} {j : Json} {a : α}

theorem Shape.make_eq_ok_iff {strict : Bool} (hdistinct : s.Distinct) (hfields : ∀ t, fields (make t) = t)
    (hmake : ∀ a, make (fields a) = a) :
    (s.decode title strict (.ofJson j)).map make = .ok a ↔
      j.MakesRecord s.fieldNames strict ∧ s.Reads 0 (some (.ofJson j)) (fields a) := by
  have hdecode : s.decode title strict (.ofJson j) = .ok (fields a) ↔ _ := decode_ofJson_iff hdistinct
  rw [Codec.map_eq_ok_iff, ← hdecode]
  constructor
  · rintro ⟨t, ht, rfl⟩
    rwa [hfields]
  · exact fun h => ⟨fields a, h, hmake a⟩

/-- **What a record is read from**: a value that makes one, each field from its part of it. -/
theorem Codec.record_eq_ok_iff (hdistinct : s.Distinct) (hfields : ∀ t, fields (make t) = t)
    (hmake : ∀ a, make (fields a) = a) :
    (record title s make fields).ofJson j = .ok a ↔
      j.MakesRecord s.fieldNames false ∧ s.Reads 0 (some (.ofJson j)) (fields a) :=
  Shape.make_eq_ok_iff hdistinct hfields hmake

theorem Codec.strictRecord_eq_ok_iff (hdistinct : s.Distinct) (hfields : ∀ t, fields (make t) = t)
    (hmake : ∀ a, make (fields a) = a) :
    (strictRecord title s make fields).ofJson j = .ok a ↔
      j.MakesRecord s.fieldNames true ∧ s.Reads 0 (some (.ofJson j)) (fields a) :=
  Shape.make_eq_ok_iff hdistinct hfields hmake

end

end PasskeyConsent
