import Mathlib.Data.List.Induction
import PasskeyConsent.Proofs.Settings.Paths
/-!
# The address of the node

Whether the edits by path keep the address of the node one that the endpoint check accepts.  The check belongs to one
spelling of one path: an address set as `rpc.url` is checked, and no edit of another leaf touches it.  The section as a
whole and the same leaf under a slash are edited as any part of the tree is.  So an address that the check rejects has
been stored by one of these two and has stood since (`address_checked_or_smuggled`), and any text at all can be stored.
-/
namespace PasskeyConsent.Settings

/-- An edit by path. -/
inductive Edit where
  | set (path text : String)
  | reset (path : String)
deriving DecidableEq, Repr

namespace Edit

/-- The settings that an edit makes, if it succeeds. -/
def result (e : Edit) (s : Settings) : Except SettingsError Settings :=
  match e with
  | .set path text => s.set path text
  | .reset path => s.reset path

/-- An edit that fails changes nothing. -/
def apply (e : Edit) (s : Settings) : Settings := (e.result s).toOption.getD s

/-- The two edits that can store an address without the check. -/
def Smuggles : Edit → Prop
  | .set path _ => path = "rpc" ∨ path = "rpc/url"
  | .reset _ => False

end Edit

/-- What settings have become by edits one after the other. -/
def edited (s : Settings) (es : List Edit) : Settings := es.foldl (fun s e => e.apply s) s

theorem edited_snoc (s : Settings) (es : List Edit) (e : Edit) : s.edited (es ++ [e]) = e.apply (s.edited es) := by
  rw [edited, List.foldl_append]
  rfl

/-- Whether an address passes the endpoint check. -/
def Accepts (address : String) : Prop := ∃ url, Endpoint.read endpointPath address = .ok url

variable {s s' : Settings} {path text u : String}

theorem url_of_setEndpoint (h : s.setEndpoint text = .ok s') (hu : s'.rpc.url = some u) : Accepts u := by
  simp only [setEndpoint] at h
  split at h
  · cases h
    cases hu
  · split at h
    · rename_i url hurl
      cases h
      cases hu
      exact ⟨url, hurl⟩
    · cases h

theorem ofJson_of_ofTree {j : Json} (h : ofTree path j = .ok s) : codec.ofJson j = .ok s := by
  unfold ofTree at h
  cases hj : codec.ofJson j with
  | error f => rw [hj] at h; cases h
  | ok t => rw [hj] at h; exact congrArg Except.ok (Except.ok.inj h)

theorem url_of_set (h : s.set path text = .ok s') (hu : s'.rpc.url = some u) :
    s.rpc.url = some u ∨ Accepts u ∨ (Edit.set path text).Smuggles := by
  unfold set at h
  split at h
  · exact .inr (.inl (url_of_setEndpoint h hu))
  · rename_i hpath
    split at h
    · cases h
    · obtain ⟨new, -, h⟩ := ok_of_bind h
      have h := ofJson_of_ofTree h
      by_cases hp : pointerOf path <+: Leaf.url.pointer
      · refine .inr (.inr ?_)
        rcases List.prefix_cons_iff.1 hp with hnil | ⟨rest, hcons, hrest⟩
        · exact absurd hnil (pointerOf_ne_nil path)
        · rcases List.prefix_cons_iff.1 hrest with rfl | ⟨rest, rfl, hnil⟩
          · exact .inl (eq_of_pointerOf_section hcons (by decide))
          · cases List.prefix_nil.1 hnil
            exact (eq_of_pointerOf_leaf hcons (by decide) (by decide)).imp (absurd · hpath) id
      · exact .inl ((value_of_replaceAt (ℓ := .url) h rfl hp).symm.trans hu)

theorem url_of_reset (h : s.reset path = .ok s') (hu : s'.rpc.url = some u) : s.rpc.url = some u := by
  unfold reset at h
  split at h
  · cases h
  · rename_i default hdefault
    have h := ofJson_of_ofTree h
    by_cases hp : pointerOf path <+: Leaf.url.pointer
    · have hnone : s'.value .url = none := value_of_replaceAt_part (ℓ := .url) hdefault h rfl hp
      cases hnone.symm.trans hu
    · exact (value_of_replaceAt (ℓ := .url) h rfl hp).symm.trans hu

/-- **What an edit can do to the address.** -/
theorem url_of_apply {e : Edit} (hu : (e.apply s).rpc.url = some u) :
    s.rpc.url = some u ∨ Accepts u ∨ e.Smuggles := by
  unfold Edit.apply at hu
  cases hs : e.result s with
  | error f =>
    rw [hs] at hu
    exact .inl hu
  | ok s' =>
    rw [hs] at hu
    cases e with
    | set path text => exact url_of_set hs hu
    | reset path => exact .inl (url_of_reset hs hu)

/-- An address that one edit has stored and that has stood since. -/
def Smuggled (es : List Edit) (u : String) : Prop :=
  ∃ before e after, es = before ++ e :: after ∧ e.Smuggles ∧
    ∀ more, more <+: after → (edited {} (before ++ e :: more)).rpc.url = some u

theorem Smuggled.snoc {es : List Edit} {e : Edit} (h : Smuggled es u) (hu : (edited {} (es ++ [e])).rpc.url = some u) :
    Smuggled (es ++ [e]) u := by
  obtain ⟨before, e', after, rfl, hsmuggles, hstood⟩ := h
  refine ⟨before, e', after ++ [e], by simp, hsmuggles, fun more hmore => ?_⟩
  rcases List.prefix_concat_iff.1 hmore with rfl | hmore
  · rw [← List.cons_append, ← List.append_assoc]
    exact hu
  · exact hstood more hmore

theorem accepts_or_smuggled {es : List Edit} (hu : (edited {} es).rpc.url = some u) : Accepts u ∨ Smuggled es u := by
  induction es using List.reverseRecOn with
  | nil => cases hu
  | append_singleton es e ih =>
    have hstep := hu
    rw [edited_snoc] at hstep
    rcases url_of_apply hstep with hbefore | haccepts | hsmuggles
    · exact (ih hbefore).imp_right (·.snoc hu)
    · exact .inl haccepts
    · refine .inr ⟨es, e, [], rfl, hsmuggles, fun more hmore => ?_⟩
      rw [List.prefix_nil.1 hmore]
      exact hu

/-- Once there is an address, any text takes its place when it is set under a slash. -/
theorem set_slashed (h : s.rpc.url = some u) (text : String) :
    s.set "rpc/url" text = .ok { s with rpc.url := some text } := by
  have hpointer : pointerOf "rpc/url" = Leaf.url.pointer := by decide +kernel
  have hcurrent : s.tree.at? Leaf.url.pointer = some (.str u) := by
    rw [tree_eq, at?_treeOf]
    exact congrArg (some <| Leaf.url.json ·) h
  have htree : Json.replaceAt (.str text) Leaf.url.pointer s.tree = ({ s with rpc.url := some text } : Settings).tree := by
    rw [tree_eq, tree_eq, replaceAt_treeOf]
    congr 1
    funext ℓ
    cases ℓ <;> rfl
  rw [set, if_neg (by decide), hpointer, hcurrent]
  simp only [coerce, bind, Except.bind, htree, ofTree, ofJson_tree, Except.mapError]

/-- **What an address has passed**: after any edits of the defaults, one that the check rejects was stored by an edit of
the section or of the leaf under a slash, and has stood since; and by some edits any text at all is stored. -/
theorem address_checked_or_smuggled (u : String) :
    (∀ es, (edited {} es).rpc.url = some u → Accepts u ∨ Smuggled es u) ∧ ∃ es, (edited {} es).rpc.url = some u := by
  refine ⟨fun es => accepts_or_smuggled, [.set "rpc.url" "https://[::1]", .set "rpc/url" u], ?_⟩
  have hfirst : (edited {} [.set "rpc.url" "https://[::1]"]).rpc.url = some "https://[::1]" := by decide +kernel
  show (Edit.apply (.set "rpc/url" u) (edited {} [.set "rpc.url" "https://[::1]"])).rpc.url = some u
  rw [Edit.apply, Edit.result, set_slashed hfirst]
  rfl

/-- Two edits, the latter of the whole section. -/
def sectionEdits : List Edit := [.set "rpc.url" "https://[::1]", .set "rpc" "\x7b\"url\":\"ftp://[::1]\"\x7d"]

theorem address_checked_or_smuggled_section :
    (edited {} sectionEdits).rpc.url = some "ftp://[::1]" ∧ (Accepts "ftp://[::1]" ∨ Smuggled sectionEdits "ftp://[::1]") := by
  have hstored : (edited {} sectionEdits).rpc.url = some "ftp://[::1]" := by decide +kernel
  exact ⟨hstored, (address_checked_or_smuggled _).1 _ hstored⟩

/-- **An address without a safe scheme is stored under a slash.** -/
theorem unsafe_address_stored :
    (edited {} [.set "rpc/url" "http://[2001:db8::1]"]).rpc.url = some "http://[2001:db8::1]" ∧
      ¬Accepts "http://[2001:db8::1]" := by
  refine ⟨by decide +kernel, fun ⟨url, h⟩ => ?_⟩
  have hrejected : (Endpoint.read endpointPath "http://[2001:db8::1]").toOption = none := by decide +kernel
  rw [h] at hrejected
  cases hrejected

end PasskeyConsent.Settings
