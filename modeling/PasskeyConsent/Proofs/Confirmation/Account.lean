import PasskeyConsent.Proofs.Confirmation.Topics
import PasskeyConsent.Proofs.Response.Message
/-!
# The account of a request

What a request has taken, what it has given back and what it has posted, read off its own events alone.  `Tallies` is
what ties the account to the holdings that are kept for the rollback, at every place where a request can be stopped;
the contract of each step that takes something says that it is tied again when the step is over.
-/
namespace PasskeyConsent

variable {α : Type}

/-- Whether the event is a ceremony that came back without its PRF result. -/
def Event.missesPrf : Event → Bool
  | .answered (.authenticators _) (.error e) | .answered (.currentPasskey ..) (.error e) => e.isFatal
  | .answered (.assertion _) x | .answered (.attestation _) x =>
    match (x : Except CredentialError RawCredential) >>= RawCredential.collect with
    | .ok _ => false
    | .error e => e.isFatal
  | _ => false

/-- What a request has done so far, as far as it must be made good or answered for. -/
structure Account where
  /-- The ids that it has asked to run under, and whether it was let. -/
  registered : List (String × Bool) := []
  unregistered : List String := []
  reserved : List Nat := []
  released : List Nat := []
  /-- The uses of warm sessions that it has taken, each with its account. -/
  consumed : List (WarmSessionGrant × String) := []
  reclaimed : List (WarmSessionGrant × String) := []
  restored : List String := []
  mounted : List UiHandle := []
  unmounted : List UiHandle := []
  /-- The sessions that it has attached to the signing worker. -/
  attachments : List String := []
  /-- Those of them that it has neither supplied nor detached since. -/
  attached : List String := []
  /-- Whether something that it has handed back is still on its way. -/
  returning : Bool := false
  posted : List Json := []
  missesPrf : Bool := false
deriving Repr

namespace Account

def attach (s : Account) (session : String) : Account :=
  { s with attachments := s.attachments ++ [session], attached := s.attached ++ [session] }

def detach (s : Account) (session : String) : Account := { s with attached := s.attached.filter (· != session) }

def after (s : Account) : Event → Account
  | .accessed (.register id) allowed => { s with registered := s.registered ++ [(id, allowed)] }
  | .accessed (.unregister id) _ => { s with unregistered := s.unregistered ++ [id] }
  | .accessed (.reserve _) (.ok picked) => { s with reserved := s.reserved ++ picked }
  | .accessed (.release n) _ => { s with released := s.released ++ [n] }
  | .accessed (.consume _ account) (.ok g) => { s with consumed := s.consumed ++ [(g, account)] }
  | .accessed (.restore session) _ => { s with restored := s.restored ++ [session] }
  | .accessed (.attach session _) _ => s.attach session
  | .accessed (.deposit session _) _ | .accessed (.detach session) _ => s.detach session
  | .answered (.mount ..) surface => { s with mounted := s.mounted ++ [surface] }
  | .called (.unmount surface) => { s with unmounted := s.unmounted ++ [surface], returning := true }
  | .called (.reclaim g account) => { s with reclaimed := s.reclaimed ++ [(g, account)], returning := true }
  | .answered (.unmount _) _ | .answered (.reclaim ..) _ => { s with returning := false }
  | .called (.post m) => { s with posted := s.posted ++ [m] }
  | e => if e.missesPrf then { s with missesPrf := true } else s

/-- The request runs under an id. -/
structure Holds (s : Account) (id : String) : Prop where
  registered : (id, true) ∈ s.registered
  unregistered : id ∉ s.unregistered

/-- Everything that was taken is given back, once: each number and no other, the use of a warm session, the surface;
nothing is left attached. -/
structure GivenBack (s : Account) : Prop where
  released : s.released = s.reserved
  nodup : s.reserved.Nodup
  reclaimed : s.reclaimed = s.consumed
  restored : s.restored = s.consumed.map (·.1.sessionId)
  once : s.consumed.length ≤ 1
  attached : s.attached = []
  returning : s.returning = false

/-- When a message may be posted: no other has been, no surface is open, and all is given back unless the message is a
confirmation. -/
structure MayPost (s : Account) (m : Json) : Prop where
  first : s.posted = []
  closed : s.unmounted = s.mounted
  once : s.mounted.length ≤ 1
  returning : s.returning = false
  tenure : ∀ session ∈ s.attachments, s.Holds session
  givenBack : m.get? "confirmed" = some (.bool true) ∨ m.get? "confirmed" = some (.bool false) ∧ s.GivenBack

/-- The one who keeps the account.  A message is posted only when it may be, a session is attached only under the id of
the request, and the id is given up once. -/
def keeper : Observer Account where
  after := after
  allows
    | s, .called (.post m) => s.MayPost m
    | s, .accessed (.attach session _) _ => s.Holds session
    | s, .accessed (.unregister id) _ => s.Holds id ∧ ∀ session ∈ s.attachments, session = id
    | _, _ => True

/-- What the account does not depend on. -/
theorem keeper_ignores : keeper.IgnoresTopics
    [.clock, .key, .binding, .turn, .chain, .freshness, .state, .preferences, .holdings, .breakdown] := by
  intro e he
  cases e with
  | access a => cases a <;> first | exact absurd he Bool.false_ne_true | exact fun x own s => ⟨rfl, trivial, rfl⟩
  | suspend u =>
    cases u with
    | call c =>
      cases c <;> first
        | exact absurd he Bool.false_ne_true
        | exact fun s => ⟨⟨trivial, rfl⟩, fun x => ⟨trivial, rfl⟩⟩
    | wait w => exact fun x s => ⟨trivial, rfl⟩
  | watched => exact absurd he Bool.false_ne_true

/-! ## The account and the holdings -/

/-- The request runs under its id, and attaches no other session. -/
structure Present (id : String) (s : Account) : Prop where
  registered : s.registered = [(id, true)]
  unregistered : s.unregistered = []
  attachments : ∀ session ∈ s.attachments, session = id

/-- What the account of a request is before it comes to its end: nothing is closed or answered yet. -/
structure Running (id : String) (missed : Bool) (own : Holdings) (s : Account) : Prop extends Present id s where
  mounted : s.mounted = own.surface.toList
  unmounted : s.unmounted = []
  returning : s.returning = false
  posted : s.posted = []
  missesPrf : s.missesPrf = missed

/-- **The account tallies with the holdings**: what has been taken is what will be given back. -/
structure Tallies (id : String) (missed : Bool) (own : Holdings) (s : Account) : Prop extends
    Running id missed own s where
  reserved : s.reserved = own.nonces
  nodup : own.nonces.Nodup
  released : s.released = []
  consumed : s.consumed = own.warmUse.toList
  reclaimed : s.reclaimed = []
  restored : s.restored = []
  attached : s.attached = []

/-- How the account stands when a request stops: it is fatal just when the PRF result is missing. -/
def Ended (id : String) : Stop → Holdings → Account → Prop
  | .declined .., own, s => Tallies id false own s
  | .fatal e, own, s => Tallies id true own s ∧ e = .credential .missingPrfResult

/-- A step keeps the account: wherever it is stopped or fails, the account tallies, and it goes on as `P` says. -/
abbrev Keeps (id : String) (p : Stage α) (P : α → Holdings → Account → Prop) (own : Holdings)
    (s : Account) : Prop :=
  keeper.Meets (Tallies id false) p.run (Ends P (Ended id)) own s

/-- Nothing has changed. -/
def Same (own : Holdings) (s : Account) : α → Holdings → Account → Prop := fun _ own' s' => own' = own ∧ s' = s

variable {id : String} {own : Holdings} {s : Account}

theorem Present.holds (h : Present id s) : s.Holds id where
  registered := by rw [h.registered]; exact List.mem_singleton_self _
  unregistered := by rw [h.unregistered]; exact List.not_mem_nil

theorem Ended.of_isDecline {e : Stop} (he : e.IsDecline) (h : Tallies id false own s) : Ended id e own s := by
  cases e with
  | declined code message => exact h
  | fatal e => exact he.elim

/-- **A step about other things** changes nothing. -/
theorem keeps_of_topics {topics : List Topic} {p : Stage α}
    (h : p.run.KeepsTo topics (Ends Program.anyResult Stop.IsDecline))
    (ht : topics ⊆ [.clock, .key, .binding, .turn, .chain, .freshness, .state, .preferences, .holdings, .breakdown])
    (hs : Tallies id false own s) : Keeps id p (Same own s) own s := by
  refine Observer.meets_of_topics keeper_ignores (h.mono ht fun _ hr => hr) hs fun r hr => ?_
  cases r with
  | ok a => exact ⟨rfl, rfl⟩
  | error e => exact .of_isDecline hr hs

/-- What follows a step that has changed nothing begins where the step began. -/
theorem meets_thenSame {β ε : Type} {stop : Holdings → Account → Prop} {p : ExceptT ε Program α}
    {f : α → ExceptT ε Program β} {P : β → Holdings → Account → Prop} {F : ε → Holdings → Account → Prop}
    (h : keeper.Meets stop p.run (Ends (Same own s) F) own s)
    (hf : ∀ a, keeper.Meets stop (f a).run (Ends P F) own s) : keeper.Meets stop (p >>= f).run (Ends P F) own s := by
  refine Observer.Meets.thenExcept h ?_
  rintro a _ _ ⟨rfl, rfl⟩
  exact hf a

theorem Tallies.after_topics {β : Type} {topics : List Topic} {p : Stage α} {f : α → Stage β}
    {P : β → Holdings → Account → Prop} (hs : Tallies id false own s)
    (h : p.run.KeepsTo topics (Ends Program.anyResult Stop.IsDecline))
    (ht : topics ⊆ [.clock, .key, .binding, .turn, .chain, .freshness, .state, .preferences, .holdings, .breakdown])
    (hf : ∀ a, Keeps id (f a) P own s) : Keeps id (p >>= f) P own s := meets_thenSame (keeps_of_topics h ht hs) hf

end Account
end PasskeyConsent
