import PasskeyConsent.Config.Home
import PasskeyConsent.Proofs.Config.Resolution
/-!
# Which source of a value counts

A value may come from its variable, from the configuration file, from the settings file or from the defaults.
`Home.Comes` says from which one it comes when each goes before the next; it is given which values count that the
configuration file names.  Of these the merge only sees how they differ from the defaults, so a value counts just if it
is not the default (`configured_by_priority`): a configuration file cannot take a leaf back to its default that the settings
file has changed (`named_default_ignored`).
-/
namespace PasskeyConsent

namespace Settings

/-- The document of a settings file, if it holds settings. -/
def storedIn (file : FileState) : Option Document :=
  (file.text?.map fun text => (Document.ofText text, codec.ofText text)).bind fun (d, s) =>
    if s.isOk then some d.1 else none

/-- The document of a configuration file, if it holds settings. -/
def overlaidBy (file : FileState) : Option Document :=
  ((file.text?.bind Toml.read).map (·.toDocument)).filter fun d => (codec.decode d).isOk

theorem value_ofJsonFile (file : FileState) (ℓ : Leaf) :
    (ofJsonFile file).value ℓ = ((storedIn file).bind ℓ.named?).getD ℓ.default := by
  unfold ofJsonFile storedIn
  cases file.text? with
  | none => rfl
  | some text =>
    simp only [Option.bind_some, Option.map_some]
    cases hs : codec.ofText text with
    | error e => rfl
    | ok s =>
      obtain ⟨s', hdecode, h⟩ := ok_of_bind hs
      have heq : s' = s := by
        split at h
        · exact Except.ok.inj h
        · cases h
      exact value_of_decode (heq ▸ hdecode) ℓ

/-- **A configuration file gives settings just if it has a document that holds some.** -/
theorem ofTomlFile_cases (path : String) (file : FileState) :
    (∃ d s, overlaidBy file = some d ∧ codec.decode d = .ok s ∧ ofTomlFile path file = .ok (some s)) ∨
      (overlaidBy file = none ∧ ∀ s, ofTomlFile path file ≠ .ok (some s)) := by
  unfold overlaidBy ofTomlFile
  cases htext : file.text? with
  | none => exact .inr ⟨rfl, fun s => by split <;> simp_all⟩
  | some text =>
    cases file with
    | absent | directory => cases htext
    | content bytes =>
      rw [Option.bind_some]
      cases hread : Toml.read text with
      | none => exact .inr ⟨rfl, fun s => by simp [hread]⟩
      | some t =>
        rw [Option.map_some, Option.filter]
        cases hs : codec.decode t.toDocument with
        | error e => exact .inr ⟨if_neg Bool.false_ne_true, fun s => by simp [hread, hs]⟩
        | ok s => exact .inl ⟨t.toDocument, s, if_pos rfl, hs, by simp [hread, hs]⟩

end Settings

namespace Home

open Settings (Leaf)
open Config (Resolved readText readValue variableOf)

variable {home : Home} {asked : Option FileState} {env : Environment}

/-- The value that the settings file names for a leaf. -/
def storedValue? (home : Home) (ℓ : Leaf) : Option ℓ.Value := (Settings.storedIn home.settings).bind ℓ.named?

/-- The value that the configuration file names for a leaf. -/
def overlaidValue? (home : Home) (asked : Option FileState) (ℓ : Leaf) : Option ℓ.Value :=
  (Settings.overlaidBy (asked.getD home.config)).bind ℓ.named?

/-- **Where what a leaf has become comes from**: its variable goes before the configuration file, this, as far as what it
names counts, before the settings file, and that before the default. -/
inductive Comes (home : Home) (asked : Option FileState) (env : Environment) (network : Network) (ℓ : Leaf)
    (counts : ℓ.Value → Prop) (r : Resolved ℓ) : Prop
  | fromVariable (text : String) (hset : env.value? (variableOf ℓ) = .ok (some text))
      (hread : readText ℓ (variableOf ℓ) text = .ok r)
  | fromOverlay (v : ℓ.Value) (hunset : env.value? (variableOf ℓ) = .ok none) (hv : home.overlaidValue? asked ℓ = some v)
      (hcounts : counts v) (hread : readValue network ℓ (variableOf ℓ) v = .ok r)
  | fromStored (v : ℓ.Value) (hunset : env.value? (variableOf ℓ) = .ok none)
      (hoverlaid : ∀ w, home.overlaidValue? asked ℓ = some w → ¬counts w) (hv : home.storedValue? ℓ = some v)
      (hread : readValue network ℓ (variableOf ℓ) v = .ok r)
  | fromDefault (hunset : env.value? (variableOf ℓ) = .ok none)
      (hoverlaid : ∀ w, home.overlaidValue? asked ℓ = some w → ¬counts w) (hstored : home.storedValue? ℓ = none)
      (hread : readValue network ℓ (variableOf ℓ) ℓ.default = .ok r)

/-- The value of a leaf by the two files. -/
def fileValue (home : Home) (asked : Option FileState) (ℓ : Leaf) : ℓ.Value :=
  (((home.overlaidValue? asked ℓ).filter (· ≠ ℓ.default)).or (home.storedValue? ℓ)).getD ℓ.default

theorem fileValue_cases (home : Home) (asked : Option FileState) (ℓ : Leaf) :
    (∃ v, home.overlaidValue? asked ℓ = some v ∧ v ≠ ℓ.default ∧ home.fileValue asked ℓ = v) ∨
      ((∀ w, home.overlaidValue? asked ℓ = some w → ¬w ≠ ℓ.default) ∧
        home.fileValue asked ℓ = (home.storedValue? ℓ).getD ℓ.default) := by
  unfold fileValue
  cases home.overlaidValue? asked ℓ with
  | none => exact .inr ⟨nofun, rfl⟩
  | some v =>
    by_cases hv : v = ℓ.default
    · exact .inr ⟨fun w hw => by simp [← Option.some.inj hw, hv], by simp [hv, Option.filter]⟩
    · exact .inl ⟨v, rfl, hv, by simp [hv, Option.filter]⟩

/-- **What a leaf of the settings of both files is.** -/
theorem value_effectiveSettings {s : Settings} (hs : home.effectiveSettings asked = .ok s) (ℓ : Leaf) :
    s.value ℓ = home.fileValue asked ℓ := by
  have hmerge {d : Document} {overlay : Settings} (hd : Settings.overlaidBy (asked.getD home.config) = some d)
      (hoverlay : Settings.codec.decode d = .ok overlay) :
      ((Settings.ofJsonFile home.settings).merge overlay).value ℓ = home.fileValue asked ℓ := by
    rw [Settings.value_merge, Settings.value_of_decode hoverlay, Settings.value_ofJsonFile, fileValue, overlaidValue?, hd,
      Option.bind_some]
    cases ℓ.named? d with
    | none => exact if_pos rfl
    | some v =>
      by_cases hv : v = ℓ.default
      · simp [hv, storedValue?, Option.filter]
      · simp [hv, Option.filter]
  have hbase (hnone : Settings.overlaidBy (asked.getD home.config) = none) : (Settings.ofJsonFile home.settings).value ℓ = home.fileValue asked ℓ := by
    rw [Settings.value_ofJsonFile, fileValue, overlaidValue?, hnone]
    rfl
  cases asked with
  | some file =>
    simp only [effectiveSettings] at hs
    rcases Settings.ofTomlFile_cases configPath file with ⟨d, overlay, hd, hoverlay, heq⟩ | ⟨-, hne⟩
    · simp only [heq] at hs
      exact Except.ok.inj hs ▸ hmerge hd hoverlay
    · split at hs
      · rename_i heq
        exact absurd heq (hne _)
      · cases hs
      · cases hs
  | none =>
    simp only [effectiveSettings] at hs
    rcases Settings.ofTomlFile_cases configPath home.config with ⟨d, overlay, hd, hoverlay, heq⟩ | ⟨hnone, hne⟩
    · simp only [heq] at hs
      exact Except.ok.inj hs ▸ hmerge hd hoverlay
    · split at hs
      · rename_i heq
        exact absurd heq (hne _)
      · exact Except.ok.inj hs ▸ hbase hnone

/-- **Every value comes from the first source that names it**, where the configuration file counts in what differs from
the defaults. -/
theorem configured_by_priority {c : Config} (h : home.configure env asked = some (.ok c)) :
    ∃ env', home.environment env = some env' ∧
      (∀ ℓ, home.Comes asked env' c.network ℓ (· ≠ ℓ.default) (c.value ℓ)) ∧
      Config.chosen env' Config.readEmbedded "CONFIRM_EMBEDDED" .topLevel = .ok c.embedding := by
  obtain ⟨env', henv, h⟩ := Option.bind_eq_some_iff.1 h
  obtain ⟨s, hs, hc⟩ := ok_of_bind (Option.some.inj h)
  refine ⟨env', henv, fun ℓ => ?_, (Config.settles_webauthn c.network (Config.parts_of_resolve hc).2.1).2⟩
  obtain ⟨given, hgiven, hread⟩ := Config.settles_of_resolve hc ℓ
  cases given with
  | some text => exact .fromVariable text hgiven hread
  | none =>
    have hread : readValue c.network ℓ (variableOf ℓ) (s.value ℓ) = .ok (c.value ℓ) := hread
    rw [value_effectiveSettings hs] at hread
    rcases home.fileValue_cases asked ℓ with ⟨v, hv, hcounts, heq⟩ | ⟨hoverlaid, heq⟩
    · exact .fromOverlay v hgiven hv hcounts (heq ▸ hread)
    · rw [heq] at hread
      cases hstored : home.storedValue? ℓ with
      | some v => exact .fromStored v hgiven hoverlaid hstored (by rw [hstored] at hread; exact hread)
      | none => exact .fromDefault hgiven hoverlaid hstored (by rw [hstored] at hread; exact hread)

/-- A home whose settings file chooses the main network, and whose configuration file goes back to the test network. -/
def backToTestnet : Home where
  settings := .ofText "\x7b\"rpc\":\x7b\"network\":\"mainnet\",\"url\":\"https://[::1]\"\x7d\x7d"
  config := .ofText "[rpc]\nnetwork = \"testnet\"\n"

theorem backToTestnet_environment : backToTestnet.environment {} = some {} := by decide +kernel

theorem backToTestnet_configured :
    ∃ c, backToTestnet.configure {} none = some (.ok c) ∧ c.network = .mainnet := by
  have hmainnet : (backToTestnet.configure {} none).any (·.toOption.any (·.network = .mainnet)) = true := by
    decide +kernel
  obtain ⟨r, hr, h⟩ := (Option.any_eq_true _ _).1 hmainnet
  obtain ⟨c, rfl, hc⟩ := ok_of_any h
  exact ⟨c, hr, of_decide_eq_true hc⟩

theorem configured_by_priority_backToTestnet :
    ∃ c, backToTestnet.configure {} none = some (.ok c) ∧ c.network = .mainnet ∧
      backToTestnet.Comes none {} c.network .network (· ≠ Leaf.network.default) (c.value .network) := by
  obtain ⟨c, hc, hmainnet⟩ := backToTestnet_configured
  obtain ⟨env', henv, hcomes, -⟩ := configured_by_priority hc
  cases backToTestnet_environment.symm.trans henv
  exact ⟨c, hc, hmainnet, hcomes .network⟩

/-- **What a configuration file names does not always count**: the network that it names is not the one that the wallet
runs with. -/
theorem named_default_ignored :
    ∃ c, backToTestnet.configure {} none = some (.ok c) ∧
      ¬backToTestnet.Comes none {} c.network .network (fun _ => True) (c.value .network) := by
  obtain ⟨c, hc, hmainnet⟩ := backToTestnet_configured
  have hnamed : backToTestnet.overlaidValue? none .network = some "testnet" := by decide +kernel
  refine ⟨c, hc, fun hcomes => ?_⟩
  cases hcomes with
  | fromVariable text hset => cases hset
  | fromOverlay v _ hv _ hread =>
    cases hnamed.symm.trans hv
    have hread : Config.readNetwork (variableOf .network) "testnet" = .ok c.network := hread
    have htestnet : (Config.readNetwork (variableOf .network) "testnet").toOption = some .testnet := by decide +kernel
    rw [hread, hmainnet] at htestnet
    cases htestnet
  | fromStored v _ hoverlaid => exact hoverlaid _ hnamed trivial
  | fromDefault _ hoverlaid => exact hoverlaid _ hnamed trivial

end Home
end PasskeyConsent
