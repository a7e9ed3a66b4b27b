import PasskeyConsent.Proofs.Concurrency.Simulation
import PasskeyConsent.Proofs.Confirmation.Answer
import PasskeyConsent.Proofs.Confirmation.Secrecy
/-!
# What is told of the secret outputs

Other secret outputs change nothing that a task tells, except in the approval of a decryption in the wallet's own
context, which tells the first one (`handle_keeps_secret`).  A run is matched by each run with other outputs, since the
handling of an envelope is like itself (`handle_alike`); that a run is matched by itself, where an output is alike only
to itself and only if it was given, says what a message can tell.
-/
namespace PasskeyConsent

open Program Confirmation

variable {α : Type}

/-- The first secret output that an authenticator gives to a task. -/
def Happening.secret? (task : Nat) : Happening → Option Bytes
  | .answered i (.assertion _) (.ok raw) | .answered i (.attestation _) (.ok raw) =>
    if i = task then raw.prf.bind (·.first) else none
  | _ => none

/-- The first secret outputs that a task is given in a run, in order. -/
def secretsOf (task : Nat) (ss : List (Step α)) : List Bytes := ss.filterMap (·.happening.secret? task)

/-- The handling of an envelope, or a program that prompts for no credential and answers nothing. -/
def Program.IsDiscreet (p : Program (Except Error Unit)) : Prop :=
  (∃ setup raw, p = handle setup raw) ∨ p.KeepsTo plainTopics anyResult

def Move.IsDiscreet : Move (Except Error Unit) → Prop
  | .start p => p.IsDiscreet
  | _ => True

/-! ## Runs that are like themselves -/

theorem Program.IsDiscreet.alike {F : Likeness} {p : Program (Except Error Unit)} (h : p.IsDiscreet) :
    Alike F (fun _ _ => True) Eq p p := by
  rcases h with ⟨setup, raw, rfl⟩ | h
  · exact (handle_alike setup raw).mono (fun _ _ _ => trivial) fun _ _ => id
  · exact alike_of_topics h (List.Subset.refl _)

theorem RawCredential.Alike.refl {F : Likeness} {raw : RawCredential}
    (h : ∀ b, raw.prf.bind (·.first) = some b → F b b) : raw.Alike F raw := by
  refine ⟨rfl, ?_⟩
  generalize raw.prf.bind (·.first) = first at h
  cases first with
  | none => exact .none
  | some b => exact .some (h b rfl)

/-- A move is like itself if the secret output that it gives, if any, is. -/
theorem Wallet.Goes.alike_self {F : Nat → Likeness} {w w' : Wallet α} {m : Move α} {h : Happening} (g : w.Goes m h w')
    (hF : ∀ i b, h.secret? i = some b → F i b b) : m.Alike F m := by
  cases g with
  | @answer i t t' c x ht hc hr =>
    have hcredential {x : Except CredentialError RawCredential}
        (hx : ∀ raw, x = .ok raw → ∀ b, raw.prf.bind (·.first) = some b → F i b b) :
        ResultsAlike (RawCredential.Alike (F i)) x x := by
      cases x with
      | ok raw => exact .ok (.refl (hx raw rfl))
      | error e => exact .error e
    refine .answer i c ?_
    cases c with
    | assertion options =>
      refine hcredential fun raw hraw b hb => hF i b ?_
      subst hraw
      exact (if_pos rfl).trans hb
    | attestation options =>
      refine hcredential fun raw hraw b hb => hF i b ?_
      subst hraw
      exact (if_pos rfl).trans hb
    | _ => rfl
  | _ => exact .other rfl

theorem Run.alike_self {F : Nat → Likeness} {w w' : Wallet α} {ss : List (Step α)} (run : Run w ss w')
    (hF : ∀ i, ∀ b ∈ secretsOf i ss, F i b b) : List.Forall₂ (Move.Alike F) (movesOf ss) (movesOf ss) := by
  refine List.forall₂_same.2 fun m hm => ?_
  obtain ⟨st, hst, rfl⟩ := List.mem_map.1 hm
  exact (run.goes hst).alike_self fun i b hb => hF i b (List.mem_filterMap.2 ⟨st, hst, hb⟩)

/-! ## What messages tell -/

theorem MessagesAlike.get?_of_ne {F : Likeness} {shows : Prop} {m m' : Json} (h : MessagesAlike F shows m m')
    (key : String) (hkey : key ≠ "prfOutput") : m.get? key = m'.get? key := by
  obtain ⟨r, r', halike, rfl, rfl⟩ := h
  cases halike with
  | same => rfl
  | @shown r => exact (r.get?_message_of_ne hkey _).trans (r.get?_message_of_ne hkey _).symm

/-- Where outputs are alike only to themselves, so are messages. -/
theorem MessagesAlike.eq {F : Likeness} {shows : Prop} {m m' : Json} (h : MessagesAlike F shows m m')
    (hF : shows → ∀ b b', F b b' → b = b') : m = m' := by
  obtain ⟨r, r', halike, rfl, rfl⟩ := h
  cases halike with
  | same => rfl
  | shown hshows _ hb => rw [hF hshows _ _ hb]

theorem MessagesAlike.tells {F : Likeness} {shows : Prop} {m m' : Json} (h : MessagesAlike F shows m m') :
    (m.get? "prfOutput").isSome = true ↔ shows ∧ m.get? "confirmed" = some (.bool true) := by
  obtain ⟨r, r', halike, rfl, rfl⟩ := h
  rw [Response.message_prfOutput, Response.message_confirmed, Option.isSome_map]
  cases halike with
  | same hsecret hdeclined =>
    rw [hsecret]
    refine ⟨fun h => (Bool.false_ne_true h).elim, fun ⟨hshows, hconfirmed⟩ => ?_⟩
    rw [hdeclined hshows] at hconfirmed
    cases hconfirmed
  | shown hshows hconfirmed =>
    refine ⟨fun _ => ⟨hshows, ?_⟩, fun _ => rfl⟩
    dsimp only
    rw [hconfirmed]

theorem MessagesAlike.told {F : Likeness} {shows : Prop} {m m' s : Json} (h : MessagesAlike F shows m m')
    (hs : m.get? "prfOutput" = some s) : ∃ b b', F b b' ∧ s = .str (Base64url.encode b) := by
  obtain ⟨r, r', halike, rfl, rfl⟩ := h
  rw [Response.message_prfOutput] at hs
  cases halike with
  | same hsecret =>
    rw [hsecret] at hs
    cases hs
  | @shown r _ _ b b' hb => exact ⟨b, b', hb, (Option.some.inj hs).symm⟩

/-! ## What a task tells -/

/-- What a task that handles an envelope tells of the secret outputs in a run from `w`. -/
structure KeepsSecret (raw : Json) (i : Nat) (w : Wallet (Except Error Unit)) (ss : List (Step (Except Error Unit))) :
    Prop where
  /-- A message tells a secret output if and only if it approves a decryption in the wallet's own context. -/
  tells : ∀ m ∈ messagesOf i ss,
    (m.get? "prfOutput").isSome = true ↔ ShowsSecret raw ∧ m.get? "confirmed" = some (.bool true)
  /-- What it tells is the first output that an authenticator gave to the task. -/
  first : ∀ m ∈ messagesOf i ss, ∀ s, m.get? "prfOutput" = some s →
    ∃ b ∈ secretsOf i ss, s = .str (Base64url.encode b)
  /-- With other outputs, of any likeness, the same moves are possible, up to the messages that the sink answers. -/
  possible : ∀ (F : Nat → Likeness) ms, List.Forall₂ (Move.Alike F) (movesOf ss) ms →
    ∃ ss' w', Run w ss' w' ∧ List.Forall₂ Move.Fits ms (movesOf ss')
  /-- The messages of such a run are the same, except for an approval of a decryption in the wallet's own context,
  which differs at most in what it tells. -/
  alike : ∀ (F : Nat → Likeness) ss' w', Run w ss' w' → List.Forall₂ (Move.Alike F) (movesOf ss) (movesOf ss') →
    List.Forall₂ (MessagesAlike (F i) (ShowsSecret raw)) (messagesOf i ss) (messagesOf i ss')
  elsewhere : ∀ (F : Nat → Likeness) ss' w', Run w ss' w' → List.Forall₂ (Move.Alike F) (movesOf ss) (movesOf ss') →
    List.Forall₂ (fun m m' => ∀ key, key ≠ "prfOutput" → m.get? key = m'.get? key) (messagesOf i ss) (messagesOf i ss')
  /-- They are the same of any other envelope. -/
  same : ¬ ShowsSecret raw → ∀ (F : Nat → Likeness) ss' w', Run w ss' w' →
    List.Forall₂ (Move.Alike F) (movesOf ss) (movesOf ss') → messagesOf i ss = messagesOf i ss'
  /-- The second outputs are never told: the messages are the same if the task's first outputs are. -/
  second : ∀ (F : Nat → Likeness), (∀ b b', F i b b' → b = b') → ∀ ss' w', Run w ss' w' →
    List.Forall₂ (Move.Alike F) (movesOf ss) (movesOf ss') → messagesOf i ss = messagesOf i ss'

section

variable {w w' : Wallet (Except Error Unit)} {ss : List (Step (Except Error Unit))} {setup : Setup} {raw : Json}

/-- A run of discreet programs goes through with other secret outputs, and the handling of an envelope tells alike
messages in it. -/
theorem Run.alike_of_discreet {F : Nat → Likeness} {ms : List (Move (Except Error Unit))} (run : Run w ss w')
    (fresh : w.tasks = []) (discreet : ∀ st ∈ ss, st.move.IsDiscreet) {st : Step (Except Error Unit)} (hst : st ∈ ss)
    (started : st.move = .start (handle setup raw)) (hms : List.Forall₂ (Move.Alike F) (movesOf ss) ms) :
    ∃ ss' w₁, Run w ss' w₁ ∧ List.Forall₂ Move.Fits ms (movesOf ss') ∧
      List.Forall₂ (MessagesAlike (F st.before.tasks.length) (ShowsSecret raw)) (messagesOf st.before.tasks.length ss)
        (messagesOf st.before.tasks.length ss') := by
  -- Nothing is asked of the messages of other tasks.
  let M (j : Nat) (m m' : Json) : Prop := j = st.before.tasks.length → MessagesAlike (F j) (ShowsSecret raw) m m'
  have hstart (st' : Step (Except Error Unit)) (hst' : st' ∈ ss) (p : Program (Except Error Unit))
      (hp : st'.move = .start p) :
      Program.Alike (F st'.before.tasks.length) (M st'.before.tasks.length) Eq p p := by
    by_cases hi : st'.before.tasks.length = st.before.tasks.length
    · rw [run.start_unique hst' hst hp started hi]
      exact (handle_alike setup raw).mono (fun _ _ h _ => h) fun _ _ => id
    · have hdiscreet : st'.move.IsDiscreet := discreet st' hst'
      rw [hp] at hdiscreet
      exact (Program.IsDiscreet.alike hdiscreet).mono (fun _ _ _ h => absurd h hi) fun _ _ => id
  have hw : w.Alike F M w := by
    refine ⟨rfl, rfl, fun j t t' ht => ?_⟩
    rw [fresh] at ht
    cases ht
  obtain ⟨ss', w₁, run', hfits, hhappenings⟩ := run.alike hms hstart hw
  exact ⟨ss', w₁, run', hfits, (messagesOf_alike hhappenings _).imp fun m m' h => h rfl⟩

/-- **The handling of an envelope keeps the secret outputs**, in every run in which tasks are started that handle
envelopes or have nothing to do with secret outputs. -/
theorem handle_keeps_secret (run : Run w ss w') (fresh : w.tasks = []) (discreet : ∀ st ∈ ss, st.move.IsDiscreet)
    {st : Step (Except Error Unit)} (hst : st ∈ ss) (started : st.move = .start (handle setup raw)) :
    KeepsSecret raw st.before.tasks.length w ss := by
  generalize hi : st.before.tasks.length = i
  have halike (F : Nat → Likeness) (ss' w') (run' : Run w ss' w')
      (hmoves : List.Forall₂ (Move.Alike F) (movesOf ss) (movesOf ss')) :
      List.Forall₂ (MessagesAlike (F i) (ShowsSecret raw)) (messagesOf i ss) (messagesOf i ss') := by
    obtain ⟨ss₁, w₁, run₁, hfits, hmessages⟩ := run.alike_of_discreet fresh discreet hst started hmoves
    rw [run'.eq_of_fits run₁ hfits, ← hi]
    exact hmessages
  have hself (m) (hm : m ∈ messagesOf i ss) :
      MessagesAlike (fun b b' => b = b' ∧ b ∈ secretsOf i ss) (ShowsSecret raw) m m :=
    List.forall₂_same.1 (halike (fun j b b' => b = b' ∧ b ∈ secretsOf j ss) ss w' run
      (run.alike_self fun j b hb => ⟨rfl, hb⟩)) m hm
  have hsame (F : Nat → Likeness) (hF : ShowsSecret raw → ∀ b b', F i b b' → b = b') (ss' w') (run' : Run w ss' w')
      (hmoves : List.Forall₂ (Move.Alike F) (movesOf ss) (movesOf ss')) : messagesOf i ss = messagesOf i ss' :=
    List.forall₂_eq_eq_eq ▸ (halike F ss' w' run' hmoves).imp fun m m' h => h.eq hF
  exact {
    tells := fun m hm => (hself m hm).tells
    first := fun m hm s hs => by
      obtain ⟨b, b', ⟨-, hb⟩, rfl⟩ := (hself m hm).told hs
      exact ⟨b, hb, rfl⟩
    possible := fun F ms hms => by
      obtain ⟨ss', w₁, run', hfits, -⟩ := run.alike_of_discreet fresh discreet hst started hms
      exact ⟨ss', w₁, run', hfits⟩
    alike := halike
    elsewhere := fun F ss' w' run' hmoves => (halike F ss' w' run' hmoves).imp fun _ _ h => h.get?_of_ne
    same := fun hnot F => hsame F fun hshows => absurd hshows hnot
    second := fun F hF => hsame F fun _ => hF }

end

/-! A decryption in the wallet's own context. -/

def decryptEnvelope : Json :=
  .obj [("payload", .obj [("flow", .str "localOnly"), ("nearAccountId", .str "a")]), ("requestId", .str "r"),
    ("schemaVersion", .int 2), ("type", .str "decryptPrivateKey")]

def secretCredential : RawCredential := ⟨"c", [], "", none, [], none, none, none, none, [], some ⟨some [1], some [2]⟩⟩

def decrypted : Response :=
  { Response.approved "r" with credential := some secretCredential.record, prfOutput := some (Base64url.encode [1]) }

def decryptOnce : List (Move (Except Error Unit)) :=
  let options : AssertionOptions := ⟨"", Digest.localChallenge "r" "a", ["c"], PrfSalts.forAccount "a"⟩
  [Move.start (handle quietSetup decryptEnvelope)] ++
  List.replicate 3 (Move.advance 0) ++ [Move.answer 0 .preferences { uiMode := .skip }] ++
  List.replicate 4 (Move.advance 0) ++ [Move.answer 0 (.authenticators "a") (.ok [])] ++
  [Move.advance 0, Move.answer 0 (.currentPasskey "a" []) (.ok ⟨[⟨"c", 0, []⟩], none⟩)] ++
  [Move.advance 0, Move.answer 0 (.assertion options) (.ok secretCredential)] ++
  List.replicate 3 (Move.advance 0) ++ [Move.answer 0 (.post decrypted.message) (.ok ()), Move.advance 0]

theorem handle_keeps_secret_decryptOnce :
    ∃ ss w', Run ⟨quietHost, []⟩ ss w' ∧ movesOf ss = decryptOnce ∧ secretsOf 0 ss = [[1]] ∧
      messagesOf 0 ss = [decrypted.message] ∧ KeepsSecret decryptEnvelope 0 ⟨quietHost, []⟩ ss := by
  have htold : ((Wallet.mk quietHost []).trace? decryptOnce).map (fun r => (secretsOf 0 r.1, messagesOf 0 r.1)) =
      some ([[1]], [decrypted.message]) := by decide +kernel
  obtain ⟨⟨ss, w'⟩, htrace, htold⟩ := Option.map_eq_some_iff.1 htold
  obtain ⟨hsecrets, hmessages⟩ := Prod.mk.inj htold
  have hmoves : movesOf ss = decryptOnce := Wallet.moves_of_trace? htrace
  have hdiscreet : ∀ st ∈ ss, st.move.IsDiscreet := by
    intro st hst
    have hmem : st.move ∈ decryptOnce := hmoves ▸ List.mem_map_of_mem hst
    generalize st.move = m at hmem
    cases m with
    | start p =>
      simp only [decryptOnce, List.mem_append, List.mem_cons, List.mem_replicate, List.not_mem_nil, or_false,
        reduceCtorEq, and_false] at hmem
      exact .inl ⟨quietSetup, decryptEnvelope, Move.start.inj hmem⟩
    | _ => trivial
  have run := Run.of_trace? htrace
  cases run with
  | nil => cases hmoves
  | cons first rest =>
    have hstarted := (List.cons.inj hmoves).1
    exact ⟨_, w', .cons first rest, hmoves, hsecrets, hmessages,
      handle_keeps_secret (.cons first rest) rfl hdiscreet List.mem_cons_self hstarted⟩

end PasskeyConsent
