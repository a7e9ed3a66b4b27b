import PasskeyConsent.Config.Home
import PasskeyConsent.Proofs.Json.Reading
import PasskeyConsent.Proofs.Settings.Leaves
/-!
# Settings that are saved

A saved text holds each section as a record of its own, in the order in which a person reads them; it is the text of one
value (`saved`), which reads as the settings again wherever its parts stand.  So what is saved is what is loaded, and the
defaults never take its place (`saved_reloads`).
-/
namespace PasskeyConsent

theorem FileState.text?_ofText (s : String) : (FileState.ofText s).text? = some s := by
  show String.fromUTF8? ⟨s.toByteArray.data.toList.toArray⟩ = some s
  rw [Array.toArray_toList]
  exact dif_pos s.isValidUTF8

namespace Settings

/-! ## Codecs -/

/-- What is read for a leaf does not depend on where it stands. -/
theorem Leaf.placeless (ℓ : Leaf) : ℓ.field.codec.Placeless := by
  cases ℓ with
  | network | rpId | logFormat => exact Codec.placeless_string
  | url => exact Codec.placeless_optional Codec.placeless_string
  | rpcTimeout | proceedDelay | timeToLive | contextAge | waitTimeout => exact Codec.placeless_u64
  | maxUses => exact Codec.placeless_u32
  | uiMode | behavior | theme => exact Codec.placeless_enumeration _

theorem placeless : codec.Placeless :=
  Codec.placeless_record shape_distinct
    ⟨Codec.placeless_record rpc_distinct ⟨Leaf.network.placeless, Leaf.url.placeless, Leaf.rpcTimeout.placeless, trivial⟩,
      Codec.placeless_record webauthn_distinct ⟨Leaf.rpId.placeless, trivial⟩,
      Codec.placeless_record confirmation_distinct ⟨Leaf.uiMode.placeless, Leaf.behavior.placeless,
        Leaf.proceedDelay.placeless, Leaf.theme.placeless, trivial⟩,
      Codec.placeless_record warmSession_distinct ⟨Leaf.maxUses.placeless, Leaf.timeToLive.placeless, trivial⟩,
      Codec.placeless_record nonce_distinct ⟨Leaf.contextAge.placeless, trivial⟩,
      Codec.placeless_record worker_distinct ⟨Leaf.waitTimeout.placeless, trivial⟩,
      Codec.placeless_record logging_distinct ⟨Leaf.logFormat.placeless, trivial⟩, trivial⟩

/-! ## The value of a saved text -/

/-- What a saved text is the text of. -/
def saved (s : Settings) : Json := .obj (s.sections.map fun (name, entries) => (name, .obj entries))

/-- The leaves of each section in the order of its entries. -/
def layout : List (String × List Leaf) :=
  [("rpc", [.network, .url, .rpcTimeout]), ("webauthn", [.rpId]),
   ("confirmation", [.uiMode, .behavior, .proceedDelay, .theme]), ("warm_session", [.maxUses, .timeToLive]),
   ("nonce", [.contextAge]), ("worker", [.waitTimeout]), ("logging", [.logFormat])]

theorem sections_eq (s : Settings) :
    s.sections = layout.map fun (name, ls) => (name, ls.map fun ℓ => (ℓ.field.key, ℓ.json (s.value ℓ))) := rfl

theorem Leaf.exact_json (ℓ : Leaf) (v : ℓ.Value) : (ℓ.json v).Exact 0 := by
  have hint {n : Nat} (h : n ≤ Text.maxU64) : (Json.int n).Exact 0 := .int (by omega) (Int.ofNat_le.2 h)
  cases ℓ with
  | network | rpId | logFormat => exact .str v
  | url => cases v with
    | none => exact .null
    | some u => exact .str u
  | rpcTimeout | proceedDelay | timeToLive | contextAge | waitTimeout =>
    exact hint (Nat.le_sub_one_of_lt (UInt64.toNat_lt v))
  | maxUses => exact hint (Nat.le_trans (Nat.le_sub_one_of_lt (UInt32.toNat_lt v)) (by decide))
  | uiMode | behavior | theme => cases v <;> exact .str _

theorem exact_saved (s : Settings) : s.saved.Exact 2 := by
  refine .obj fun m hm => ?_
  rw [sections_eq, List.map_map] at hm
  obtain ⟨⟨name, ls⟩, -, rfl⟩ := List.mem_map.1 hm
  refine .obj fun m hm => ?_
  obtain ⟨ℓ, -, rfl⟩ := List.mem_map.1 hm
  exact ℓ.exact_json _

/-- **What a saved text is the text of reads as the settings.** -/
theorem ofJson_saved (s : Settings) : codec.ofJson s.saved = .ok s := by
  obtain ⟨hrpc, hwebauthn, hconfirmation, hwarm, hnonce, hworker, hlogging⟩ := s.sections_readBack
  refine (Codec.record_eq_ok_iff shape_distinct (fun _ => rfl) fun _ => rfl).2 ⟨⟨fun names hnames => ?_, nofun⟩, ?_⟩
  · have hkeys : ∀ names ∈ shape.fieldNames, (layout.countP fun l => names.contains l.1) ≤ 1 := by decide
    rw [sections_eq, List.map_map, List.countP_map]
    exact hkeys names hnames
  · exact ⟨Codec.ofJson_of_perm rpc_distinct hrpc rfl (.refl _),
      Codec.ofJson_of_perm webauthn_distinct hwebauthn rfl (.refl _),
      Codec.ofJson_of_perm confirmation_distinct hconfirmation rfl (.refl _),
      Codec.ofJson_of_perm warmSession_distinct hwarm rfl (.refl _),
      Codec.ofJson_of_perm nonce_distinct hnonce rfl (.refl _),
      Codec.ofJson_of_perm worker_distinct hworker rfl (.refl _),
      Codec.ofJson_of_perm logging_distinct hlogging rfl (.refl _), trivial⟩

/-! ## Saving and loading -/

theorem ofText_toJsonText (s : Settings) : codec.ofText s.toJsonText = .ok s :=
  Codec.ofText_pretty placeless s.exact_saved (by decide) s.ofJson_saved

theorem ofJsonFile_ofText {text : String} {s : Settings} (h : codec.ofText text = .ok s) :
    ofJsonFile (.ofText text) = s := by
  rw [ofJsonFile, FileState.text?_ofText, Option.bind_some, h]
  rfl

/-- **Settings survive being saved.**  Wherever a file can be written, a save leaves a text that reads as the settings, so
that loading it gives them and never the defaults in their place; and what a text reads as is loaded from it, and is saved
and loaded again as what it is. -/
theorem saved_reloads {path : String} {file : FileState} (h : file.isWritable = true) :
    (∀ s : Settings, ∃ file', s.saveJson path file = .ok file' ∧ file'.text?.map codec.ofText = some (.ok s) ∧
      ofJsonFile file' = s ∧ ∀ home : Home, { home with settings := file' }.preferences = s.confirmation) ∧
    ∀ (text : String) (s : Settings), codec.ofText text = .ok s → ofJsonFile (.ofText text) = s ∧
      ∃ file', (ofJsonFile (.ofText text)).saveJson path file = .ok file' ∧ ofJsonFile file' = s := by
  have hsave (s : Settings) : s.saveJson path file = .ok (.ofText s.toJsonText) := if_pos h
  have hload (s : Settings) : ofJsonFile (.ofText s.toJsonText) = s := ofJsonFile_ofText s.ofText_toJsonText
  refine ⟨fun s => ⟨_, hsave s, ?_, hload s, fun home => ?_⟩, fun text s htext => ?_⟩
  · rw [FileState.text?_ofText, Option.map_some, ofText_toJsonText]
  · rw [Home.preferences, hload]
  · rw [ofJsonFile_ofText htext]
    exact ⟨rfl, _, hsave s, hload s⟩

/-- A text with an older name for the delay and a section as an array. -/
def olderText : String := "\x7b\"logging\": [\"a\\u0001\"], \"confirmation\": \x7b\"autoProceedDelay\": 5\x7d\x7d"

/-- What it is read as. -/
def olderSettings : Settings where
  confirmation := { autoProceedDelayMs := 5 }
  logging := { format := "a\x01" }

theorem saved_reloads_older : codec.ofText olderText = .ok olderSettings ∧
    ∃ file', (ofJsonFile (.ofText olderText)).saveJson "settings.json" .absent = .ok file' ∧
      ofJsonFile file' = olderSettings := by
  have htext : codec.ofText olderText = .ok olderSettings := by decide +kernel
  exact ⟨htext, ((saved_reloads rfl).2 olderText olderSettings htext).2⟩

end Settings
end PasskeyConsent
