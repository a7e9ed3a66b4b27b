import Mathlib.Logic.Function.Basic
import PasskeyConsent.Settings.Path
import PasskeyConsent.Proofs.Json.Records
/-!
# The leaves of the settings

Settings are the values of their leaves (`Settings.ofValues_value`), and their tree has one value for each leaf at its
pointer (`Settings.tree_eq`).  What is done to settings as a tree is what is done to the leaves: a document that reads as
settings gives every leaf the value that it names for it, or the default (`value_of_decode`); settings are read from
their own tree (`readsBack`); and a merge takes over the leaves that differ from the defaults (`value_merge`).
-/
namespace PasskeyConsent.Settings

/-- The single values of which settings consist. -/
inductive Leaf where
  | network
  | url
  | rpcTimeout
  | rpId
  | uiMode
  | behavior
  | proceedDelay
  | theme
  | maxUses
  | timeToLive
  | contextAge
  | waitTimeout
  | logFormat
deriving DecidableEq, Repr

namespace Leaf

@[reducible] def Value : Leaf → Type
  | .network | .rpId | .logFormat => String
  | .url => Option String
  | .rpcTimeout | .proceedDelay | .timeToLive | .contextAge | .waitTimeout => UInt64
  | .maxUses => UInt32
  | .uiMode => UiMode
  | .behavior => Behavior
  | .theme => Theme

instance : (ℓ : Leaf) → DecidableEq ℓ.Value
  | .network | .rpId | .logFormat => inferInstanceAs (DecidableEq String)
  | .url => inferInstanceAs (DecidableEq (Option String))
  | .rpcTimeout | .proceedDelay | .timeToLive | .contextAge | .waitTimeout => inferInstanceAs (DecidableEq UInt64)
  | .maxUses => inferInstanceAs (DecidableEq UInt32)
  | .uiMode => inferInstanceAs (DecidableEq UiMode)
  | .behavior => inferInstanceAs (DecidableEq Behavior)
  | .theme => inferInstanceAs (DecidableEq Theme)

/-- The key of the section that a leaf belongs to, and which of the sections that is. -/
def home : Leaf → String × Nat
  | .network | .url | .rpcTimeout => ("rpc", 0)
  | .rpId => ("webauthn", 1)
  | .uiMode | .behavior | .proceedDelay | .theme => ("confirmation", 2)
  | .maxUses | .timeToLive => ("warm_session", 3)
  | .contextAge => ("nonce", 4)
  | .waitTimeout => ("worker", 5)
  | .logFormat => ("logging", 6)

/-- The field that a leaf is in its section. -/
def field : (ℓ : Leaf) → Field ℓ.Value
  | .network => .withDefault "network" .string "testnet"
  | .url => .nullable "url" .string
  | .rpcTimeout => .withDefault "timeout_ms" .u64 10000
  | .rpId => .withDefault "rp_id" .string "localhost"
  | .uiMode => .withDefault "uiMode" UiMode.codec .modal
  | .behavior => .withDefault "behavior" Behavior.codec .requireClick
  | .proceedDelay => { Field.withDefault "autoProceedDelayMs" .u64 defaultAutoProceedDelay with names := delayNames }
  | .theme => .withDefault "theme" Theme.codec .dark
  | .maxUses => .withDefault "max_uses" .u32 3
  | .timeToLive => .withDefault "ttl_secs" .u64 300
  | .contextAge => .withDefault "base_context_max_age_ms" .u64 30000
  | .waitTimeout => .withDefault "wait_timeout_ms" .u64 60000
  | .logFormat => .withDefault "format" .string "pretty"

/-- Which of the fields of its section a leaf is. -/
def index : Leaf → Nat
  | .network | .rpId | .uiMode | .maxUses | .contextAge | .waitTimeout | .logFormat => 0
  | .url | .behavior | .timeToLive => 1
  | .rpcTimeout | .proceedDelay => 2
  | .theme => 3

/-- The steps that lead to a leaf. -/
def pointer (ℓ : Leaf) : Json.Pointer := [ℓ.home.1, ℓ.field.key]

/-- The leaves in the order in which the tree has them. -/
def all : List Leaf :=
  [.proceedDelay, .behavior, .theme, .uiMode, .logFormat, .contextAge, .network, .rpcTimeout, .url, .maxUses, .timeToLive,
    .rpId, .waitTimeout]

theorem mem_all (ℓ : Leaf) : ℓ ∈ all := by cases ℓ <;> decide

def json (ℓ : Leaf) (v : ℓ.Value) : Json := ℓ.field.codec.encode v

theorem json_isObject (ℓ : Leaf) (v : ℓ.Value) : (ℓ.json v).isObject = false := by
  cases ℓ with
  | url => cases v <;> rfl
  | _ => rfl

theorem readsBack (ℓ : Leaf) (v : ℓ.Value) : ℓ.field.codec.ReadsBack v := by
  cases ℓ with
  | network | rpId | logFormat => exact Codec.readsBack_string v
  | url => exact Codec.readsBack_optional fun s _ => ⟨Codec.readsBack_string s, nofun⟩
  | rpcTimeout | proceedDelay | timeToLive | contextAge | waitTimeout => exact Codec.readsBack_u64 v
  | maxUses => exact Codec.readsBack_u32 v
  | uiMode | behavior | theme => cases v <;> rfl

theorem not_hidden (ℓ : Leaf) (v : ℓ.Value) : ℓ.field.hidden v = false := by cases ℓ <;> rfl

theorem json_injective (ℓ : Leaf) {v w : ℓ.Value} (h : ℓ.json v = ℓ.json w) : v = w := by
  have hv := ℓ.readsBack v
  unfold Codec.ReadsBack at hv
  rw [show ℓ.field.codec.encode v = ℓ.field.codec.encode w from h] at hv
  exact Except.ok.inj (hv.symm.trans (ℓ.readsBack w))

end Leaf

/-- The value of a leaf. -/
def value (s : Settings) : (ℓ : Leaf) → ℓ.Value
  | .network => s.rpc.network
  | .url => s.rpc.url
  | .rpcTimeout => s.rpc.timeoutMs
  | .rpId => s.webauthn.rpId
  | .uiMode => s.confirmation.uiMode
  | .behavior => s.confirmation.behavior
  | .proceedDelay => s.confirmation.autoProceedDelayMs
  | .theme => s.confirmation.theme
  | .maxUses => s.warmSession.maxUses
  | .timeToLive => s.warmSession.ttlSecs
  | .contextAge => s.nonce.baseContextMaxAgeMs
  | .waitTimeout => s.worker.waitTimeoutMs
  | .logFormat => s.logging.format

/-- The value that a leaf has when nothing is chosen. -/
def Leaf.default (ℓ : Leaf) : ℓ.Value := ({} : Settings).value ℓ

def ofValues (f : (ℓ : Leaf) → ℓ.Value) : Settings where
  rpc := ⟨f .network, f .url, f .rpcTimeout⟩
  webauthn := ⟨f .rpId⟩
  confirmation := ⟨f .uiMode, f .behavior, f .proceedDelay, f .theme⟩
  warmSession := ⟨f .maxUses, f .timeToLive⟩
  nonce := ⟨f .contextAge⟩
  worker := ⟨f .waitTimeout⟩
  logging := ⟨f .logFormat⟩

theorem ofValues_value (s : Settings) : ofValues s.value = s := rfl

theorem value_ofValues (f : (ℓ : Leaf) → ℓ.Value) (ℓ : Leaf) : (ofValues f).value ℓ = f ℓ := by cases ℓ <;> rfl

/-! ## The tree -/

/-- The tree with a value at each leaf. -/
def treeOf (f : Leaf → Json) : Json :=
  .obj [
    ("confirmation", .obj [("autoProceedDelayMs", f .proceedDelay), ("behavior", f .behavior), ("theme", f .theme),
      ("uiMode", f .uiMode)]),
    ("logging", .obj [("format", f .logFormat)]),
    ("nonce", .obj [("base_context_max_age_ms", f .contextAge)]),
    ("rpc", .obj [("network", f .network), ("timeout_ms", f .rpcTimeout), ("url", f .url)]),
    ("warm_session", .obj [("max_uses", f .maxUses), ("ttl_secs", f .timeToLive)]),
    ("webauthn", .obj [("rp_id", f .rpId)]),
    ("worker", .obj [("wait_timeout_ms", f .waitTimeout)])]

theorem tree_eq (s : Settings) : s.tree = treeOf fun ℓ => ℓ.json (s.value ℓ) := by
  simp only [tree, codec, Codec.record, shape, Shape.members, Field.withDefault, Field.nullable, Json.object,
    Json.sortMembers, Json.insertMember, RpcSettings.codec, RpcSettings.shape, RpcSettings.fields, WebAuthnSettings.codec,
    WebAuthnSettings.shape, WebAuthnSettings.fields, ConfirmationPolicy.codec, ConfirmationPolicy.shape,
    ConfirmationPolicy.fields, WarmSessionSettings.codec, WarmSessionSettings.shape, WarmSessionSettings.fields,
    NonceSettings.codec, NonceSettings.shape, NonceSettings.fields, WorkerSettings.codec, WorkerSettings.shape,
    WorkerSettings.fields, LoggingSettings.codec, LoggingSettings.shape, LoggingSettings.fields, treeOf, Leaf.json,
    Leaf.field, value, Bool.false_eq_true, ↓reduceIte, List.append_nil, List.cons_append, List.nil_append,
    List.foldl_cons, List.foldl_nil, String.reduceLT, String.reduceEq]

theorem at?_member {members inner : List (String × Json)} {k l : String}
    (h : Json.lookup k members = some (.obj inner)) : (Json.obj members).at? [k, l] = Json.lookup l inner := by
  rw [Json.at?, h, Option.bind_some, Json.at?]
  simp only [Json.at?, Option.bind_fun_some]

theorem at?_treeOf (f : Leaf → Json) (ℓ : Leaf) : (treeOf f).at? ℓ.pointer = some (f ℓ) := by
  cases ℓ <;> exact (at?_member rfl).trans rfl

theorem replaceAt_treeOf (f : Leaf → Json) (ℓ : Leaf) (j : Json) :
    Json.replaceAt j ℓ.pointer (treeOf f) = treeOf (Function.update f ℓ j) := by
  cases ℓ <;>
    simp only [treeOf, Leaf.pointer, Leaf.home, Leaf.field, Field.withDefault, Field.nullable, Json.replaceAt,
      Json.lookup, Json.insertMember, Function.update, String.reduceEq, String.reduceLT, String.lt_irrefl, reduceCtorEq,
      ↓reduceIte, ↓reduceDIte]

theorem leaves_treeOf {f : Leaf → Json} (h : ∀ ℓ, (f ℓ).isObject = false) :
    leaves (treeOf f) = Leaf.all.map fun ℓ => (ℓ.pointer, f ℓ) := by
  have hleaf (ℓ : Leaf) : leaves (f ℓ) = [([], f ℓ)] := by
    have := h ℓ
    cases hj : f ℓ with
    | obj => rw [hj] at this; cases this
    | _ => simp [leaves]
  simp [treeOf, leaves, memberLeaves, hleaf, Leaf.all, Leaf.pointer, Leaf.home, Leaf.field, Field.withDefault,
    Field.nullable]

/-! ## Reading -/

/-- The part of a document that stands for a leaf. -/
def Leaf.part? (ℓ : Leaf) (d : Document) : Option Document :=
  (d.part? [ℓ.home.1] ℓ.home.2).bind (·.part? ℓ.field.names ℓ.index)

/-- The value that a document names for a leaf. -/
def Leaf.named? (ℓ : Leaf) (d : Document) : Option ℓ.Value :=
  (ℓ.part? d).bind fun e => (ℓ.field.codec.decode e).toOption

theorem Leaf.field_default (ℓ : Leaf) : ℓ.field.default = some ℓ.default := by cases ℓ <;> rfl

/-! No name belongs to two fields of a record. -/

theorem rpc_distinct : RpcSettings.shape.Distinct := by
  simp [RpcSettings.shape, Shape.Distinct, Shape.names, Field.withDefault, Field.nullable]

theorem webauthn_distinct : WebAuthnSettings.shape.Distinct := ⟨List.mem_singleton_self _, nofun, trivial⟩

theorem confirmation_distinct : ConfirmationPolicy.shape.Distinct := by
  simp [ConfirmationPolicy.shape, Shape.Distinct, Shape.names, Field.withDefault, delayNames]

theorem warmSession_distinct : WarmSessionSettings.shape.Distinct := by
  simp [WarmSessionSettings.shape, Shape.Distinct, Shape.names, Field.withDefault]

theorem nonce_distinct : NonceSettings.shape.Distinct := ⟨List.mem_singleton_self _, nofun, trivial⟩

theorem worker_distinct : WorkerSettings.shape.Distinct := ⟨List.mem_singleton_self _, nofun, trivial⟩

theorem logging_distinct : LoggingSettings.shape.Distinct := ⟨List.mem_singleton_self _, nofun, trivial⟩

theorem shape_distinct : shape.Distinct := by simp [shape, Shape.Distinct, Shape.names, Field.withDefault]

section

variable {s : Settings} {d : Document}

theorem reads_of_decode (h : codec.decode d = .ok s) (ℓ : Leaf) : ℓ.field.Reads (ℓ.part? d) (s.value ℓ) := by
  obtain ⟨hrpc, hwebauthn, hconfirmation, hwarm, hnonce, hworker, hlogging, -⟩ :=
    Codec.reads_of_record shape_distinct (fun _ => rfl) h
  -- Each section is a record in its own right, and each leaf one of its fields.
  cases ℓ with
  | network | url | rpcTimeout =>
    obtain ⟨h1, h2, h3, -⟩ := Field.reads_record hrpc (fun _ => rfl) rpc_distinct ⟨rfl, rfl, rfl, trivial⟩
    first | exact h1 | exact h2 | exact h3
  | rpId => exact (Field.reads_record hwebauthn (fun _ => rfl) webauthn_distinct ⟨rfl, trivial⟩).1
  | uiMode | behavior | proceedDelay | theme =>
    obtain ⟨h1, h2, h3, h4, -⟩ := Field.reads_record hconfirmation (fun _ => rfl) confirmation_distinct
      ⟨rfl, rfl, rfl, rfl, trivial⟩
    first | exact h1 | exact h2 | exact h3 | exact h4
  | maxUses | timeToLive =>
    obtain ⟨h1, h2, -⟩ := Field.reads_record hwarm (fun _ => rfl) warmSession_distinct ⟨rfl, rfl, trivial⟩
    first | exact h1 | exact h2
  | contextAge => exact (Field.reads_record hnonce (fun _ => rfl) nonce_distinct ⟨rfl, trivial⟩).1
  | waitTimeout => exact (Field.reads_record hworker (fun _ => rfl) worker_distinct ⟨rfl, trivial⟩).1
  | logFormat => exact (Field.reads_record hlogging (fun _ => rfl) logging_distinct ⟨rfl, trivial⟩).1

/-- **What settings read from a document have**: of each leaf the value that the document names, or the default. -/
theorem value_of_decode (h : codec.decode d = .ok s) (ℓ : Leaf) : s.value ℓ = (ℓ.named? d).getD ℓ.default := by
  have hreads := reads_of_decode h ℓ
  unfold Leaf.named?
  cases hpart : ℓ.part? d with
  | some e =>
    rw [hpart] at hreads
    have hreads : ℓ.field.codec.decode e = .ok (s.value ℓ) := hreads
    rw [Option.bind_some, hreads]
    rfl
  | none =>
    rw [hpart] at hreads
    exact Option.some.inj (hreads.symm.trans ℓ.field_default)

end

/-- Each section's fields are read from what they are written as. -/
theorem sections_readBack (s : Settings) :
    RpcSettings.shape.ReadsBack s.rpc.fields ∧ WebAuthnSettings.shape.ReadsBack s.webauthn.fields ∧
      ConfirmationPolicy.shape.ReadsBack s.confirmation.fields ∧ WarmSessionSettings.shape.ReadsBack s.warmSession.fields ∧
        NonceSettings.shape.ReadsBack s.nonce.fields ∧ WorkerSettings.shape.ReadsBack s.worker.fields ∧
          LoggingSettings.shape.ReadsBack s.logging.fields := by
  have hleaf (ℓ : Leaf) : ℓ.field.ReadsBack (s.value ℓ) :=
    ⟨ℓ.readsBack _, fun h => by rw [ℓ.not_hidden] at h; cases h⟩
  exact ⟨⟨hleaf .network, hleaf .url, hleaf .rpcTimeout, trivial⟩, ⟨hleaf .rpId, trivial⟩,
    ⟨hleaf .uiMode, hleaf .behavior, hleaf .proceedDelay, hleaf .theme, trivial⟩,
    ⟨hleaf .maxUses, hleaf .timeToLive, trivial⟩, ⟨hleaf .contextAge, trivial⟩, ⟨hleaf .waitTimeout, trivial⟩,
    ⟨hleaf .logFormat, trivial⟩⟩

theorem readsBack (s : Settings) : codec.ReadsBack s := by
  obtain ⟨hrpc, hwebauthn, hconfirmation, hwarm, hnonce, hworker, hlogging⟩ := s.sections_readBack
  exact Codec.readsBack_record shape_distinct ⟨⟨Codec.readsBack_record rpc_distinct hrpc rfl, nofun⟩,
    ⟨Codec.readsBack_record webauthn_distinct hwebauthn rfl, nofun⟩,
    ⟨Codec.readsBack_record confirmation_distinct hconfirmation rfl, nofun⟩,
    ⟨Codec.readsBack_record warmSession_distinct hwarm rfl, nofun⟩,
    ⟨Codec.readsBack_record nonce_distinct hnonce rfl, nofun⟩,
    ⟨Codec.readsBack_record worker_distinct hworker rfl, nofun⟩,
    ⟨Codec.readsBack_record logging_distinct hlogging rfl, nofun⟩, trivial⟩ rfl

/-- **Settings are read from their own tree.** -/
theorem ofJson_tree (s : Settings) : codec.ofJson s.tree = .ok s := s.readsBack

/-! ## Merging -/

theorem foldl_replaceAt (g : Leaf → Json) : ∀ (ls : List Leaf) (f : Leaf → Json),
    ls.foldl (fun t ℓ => Json.replaceAt (g ℓ) ℓ.pointer t) (treeOf f) = treeOf fun ℓ => if ℓ ∈ ls then g ℓ else f ℓ
  | [], f => by simp
  | ℓ :: ls, f => by
    rw [List.foldl_cons, replaceAt_treeOf, foldl_replaceAt g ls]
    congr 1
    funext m
    by_cases hm : m = ℓ
    · subst hm
      simp
    · simp [hm]

theorem changes_eq (s : Settings) :
    s.changes = (Leaf.all.filter fun ℓ => s.value ℓ ≠ ℓ.default).map fun ℓ => (ℓ.pointer, ℓ.json (s.value ℓ)) := by
  rw [changes, tree_eq s, leaves_treeOf fun ℓ => ℓ.json_isObject _, List.filter_map]
  congr 1
  refine List.filter_congr fun ℓ _ => decide_eq_decide.2 (not_congr ?_)
  show ({} : Settings).tree.at? ℓ.pointer = some (ℓ.json (s.value ℓ)) ↔ s.value ℓ = ℓ.default
  rw [tree_eq, at?_treeOf, Option.some.injEq]
  exact ⟨fun h => (ℓ.json_injective h).symm, fun h => h ▸ rfl⟩

/-- The values of a merge. -/
def mergedValue (base overlay : Settings) (ℓ : Leaf) : ℓ.Value :=
  if overlay.value ℓ = ℓ.default then base.value ℓ else overlay.value ℓ

/-- **What a merge is read from** is a tree of settings. -/
theorem foldl_changes (base overlay : Settings) :
    overlay.changes.foldl (fun t c => Json.replaceAt c.2 c.1 t) base.tree = (ofValues (base.mergedValue overlay)).tree := by
  rw [changes_eq, List.foldl_map, tree_eq, tree_eq, foldl_replaceAt fun ℓ => ℓ.json (overlay.value ℓ)]
  congr 1
  funext ℓ
  rw [value_ofValues, mergedValue]
  by_cases h : overlay.value ℓ = ℓ.default <;> simp [h, Leaf.mem_all]

/-- A merge never fails to be read, and so it is never passed over. -/
theorem merge_eq (base overlay : Settings) : base.merge overlay = ofValues (base.mergedValue overlay) := by
  unfold merge
  simp only [foldl_changes, ofJson_tree]

/-- **What a merge makes of a leaf.** -/
theorem value_merge (base overlay : Settings) (ℓ : Leaf) :
    (base.merge overlay).value ℓ = if overlay.value ℓ = ℓ.default then base.value ℓ else overlay.value ℓ := by
  rw [merge_eq, value_ofValues, mergedValue]

end PasskeyConsent.Settings
