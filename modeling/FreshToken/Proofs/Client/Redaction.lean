import FreshToken.Client.Traffic
import FreshToken.Proofs.Executor.Redaction
/-!
# Nothing shows a secret

A client as a whole behaves alike whatever the texts of its secrets are, and nothing that can be
seen of it tells one secret from another.
-/

namespace FreshToken

open Machine

namespace Traffic

def redact (s : Traffic) : Traffic := ⟨s.refresher.redact, s.calls.redact⟩

def Move.redact : Move → Move
  | .refresh m => .refresh m.redact
  | .call q => .call q.redact
  | .execute m => .execute m.redact

def Signal.redact : Signal → Signal
  | .refresh e => .refresh e.redact
  | .refused q e => .refused q.redact e
  | .execute e => .execute e.redact

theorem execute?_redact (s : Traffic) (m : Calls.Move (SharedPool.Move (List UInt8))) :
    s.redact.execute? m.redact =
      (s.execute? m).map fun p => (p.1.redact, p.2.map Signal.redact) := by
  rw [execute?, execute?, show s.redact.calls = s.calls.redact from rfl, Calls.move?_redact,
    Option.map_map, Option.map_map]
  congr 1
  funext p
  simp only [Function.comp_apply, List.map_map]
  rfl

theorem execute?_alike {s₁ s₂ : Traffic} {m₁ m₂ : Calls.Move (SharedPool.Move (List UInt8))}
    (hs : s₁.redact = s₂.redact) (hm : m₁.redact = m₂.redact) :
    (s₁.execute? m₁).map (fun p => (p.1.redact, p.2.map Signal.redact)) =
      (s₂.execute? m₂).map fun p => (p.1.redact, p.2.map Signal.redact) := by
  rw [← execute?_redact, ← execute?_redact, hs, hm]

theorem refresh_redact (s : Traffic) (m : Refresher.Move) :
    s.redact.move? (.refresh m.redact) =
      (s.move? (.refresh m)).map fun p => (p.1.redact, p.2.map Signal.redact) := by
  simp only [move?]
  rw [show s.redact.refresher = s.refresher.redact from rfl, Refresher.move?_redact,
    Option.map_map, Option.map_map]
  congr 1
  funext p
  simp only [Function.comp_apply, List.map_map]
  rfl

/-- A request gets a token or fails, whatever the token is, and then goes the way of all others. -/
theorem call_alike {s₁ s₂ : Traffic} {q₁ q₂ : Request} (hs : s₁.redact = s₂.redact)
    (hq : q₁.redact = q₂.redact) :
    (s₁.move? (.call q₁)).map (fun p => (p.1.redact, p.2.map Signal.redact)) =
      (s₂.move? (.call q₂)).map fun p => (p.1.redact, p.2.map Signal.redact) := by
  have hresult : s₁.refresher.snapshot.redact.result = s₂.refresher.snapshot.redact.result :=
    congrArg (fun s : Traffic => s.refresher.snapshot.result) hs
  rw [Snapshot.result_redact, Snapshot.result_redact] at hresult
  simp only [move?, Snapshot.authorize]
  cases h₁ : s₁.refresher.snapshot.result with
  | error e =>
    rw [h₁] at hresult
    cases h₂ : s₂.refresher.snapshot.result with
    | error e' =>
      rw [h₂] at hresult
      cases hresult
      simp only [Except.map, Option.map_some, List.map_cons, List.map_nil, Signal.redact, hs, hq]
    | ok t =>
      rw [h₂] at hresult
      cases hresult
  | ok t =>
    rw [h₁] at hresult
    cases h₂ : s₂.refresher.snapshot.result with
    | error e =>
      rw [h₂] at hresult
      cases hresult
    | ok t' =>
      have hcall : Request.redact { q₁ with url := q₁.url.withPair "access_token" t.exposed } =
          Request.redact { q₂ with url := q₂.url.withPair "access_token" t'.exposed } := hq
      exact execute?_alike hs (congrArg Calls.Move.call hcall)

theorem move?_alike {s₁ s₂ : Traffic} {m₁ m₂ : Move} (hs : s₁.redact = s₂.redact)
    (hm : m₁.redact = m₂.redact) :
    (s₁.move? m₁).map (fun p => (p.1.redact, p.2.map Signal.redact)) =
      (s₂.move? m₂).map fun p => (p.1.redact, p.2.map Signal.redact) := by
  cases m₁ with
  | refresh m₁ =>
    cases m₂ with
    | refresh m₂ => rw [← refresh_redact, ← refresh_redact, hs, Move.refresh.inj hm]
    | _ => cases hm
  | call q₁ =>
    cases m₂ with
    | call q₂ => exact call_alike hs (Move.call.inj hm)
    | _ => cases hm
  | execute m₁ =>
    cases m₂ with
    | execute m₂ => exact execute?_alike hs (Move.execute.inj hm)
    | _ => cases hm

theorem run?_alike (policy : Policy) (tick now clock capacity : Nat) {call₁ call₂ : Call}
    (hcall : call₁.redact = call₂.redact) {moves₁ moves₂ : List Move}
    (hmoves : moves₁.map Move.redact = moves₂.map Move.redact) :
    (Traffic.run? policy tick now call₁ clock capacity moves₁).map
        (fun p => (p.1.redact, p.2.map Signal.redact)) =
      (Traffic.run? policy tick now call₂ clock capacity moves₂).map
        fun p => (p.1.redact, p.2.map Signal.redact) := by
  have hnil : ([] : List Refresher.Move).map Refresher.Move.redact = [].map Refresher.Move.redact :=
    rfl
  refine bind_alike (Opening.run?_alike policy tick now clock hcall hnil) fun p q hlook => ?_
  obtain ⟨hr, hevents⟩ := Prod.mk.inj hlook
  have hs : Traffic.redact ⟨p.1, .start (.start capacity)⟩ =
      Traffic.redact ⟨q.1, .start (.start capacity)⟩ := by
    simp only [redact, hr]
  have hfront : (p.2.map Signal.refresh).map Signal.redact =
      (q.2.map Signal.refresh).map Signal.redact := by
    have hmap := congrArg (List.map Signal.refresh) hevents
    simp only [List.map_map] at hmap ⊢
    exact hmap
  have hruns := append_alike hfront (Machine.run?_alike move?_alike hs hmoves)
  simp only [Option.map_eq_bind] at hruns ⊢
  exact hruns

end Traffic

/-! ## What can be seen of a client -/

def Refresher.sights (c : Credentials) (r : Refresher) : List Sight :=
  .record c.record :: .record (cacheRecord c r.snapshot r.policy) ::
    (c.appSecret.sights ++ r.snapshot.sights ++
      [Outcome.attempt, .success, .failure].map fun o => .text (toString (r.tally.of o)))

def Traffic.Signal.sights : Traffic.Signal → List Sight
  | .refresh e => e.signal.sights
  | .refused _ e => [.error e]
  | .execute e => Calls.Signal.sights e

def Traffic.seen (es : List Traffic.Signal) : List Sight := es.flatMap Traffic.Signal.sights

def Traffic.sights (c : Credentials) (s : Traffic) : List Sight :=
  .record s.calls.executor.record ::
    .record (clientRecord (cacheRecord c s.refresher.snapshot s.refresher.policy)
      s.calls.executor) :: s.refresher.sights c

def Failure.sights : Failure → List Sight
  | .returned e => [.error e]
  | .breakdown => []

def Opening.sights (c : Credentials) (policy : Policy) (tick now : Nat) (call : Call)
    (clock : Nat) : List Sight :=
  match Opening.start policy tick now call with
  | .error f => [.error (.config (.policy f))]
  | .ok (o, front) =>
    (front ++ (o.conclude clock).2).flatMap Signal.sights ++
      match (o.conclude clock).1 with
      | .error f => f.sights
      | .ok r => r.sights c

def ClientPlan.sights (p : ClientPlan) : List Sight :=
  .record p.record :: match p.check with
    | .error f => [.error (.config f)]
    | .ok (c, e) => .record c.record :: c.appSecret.sights ++ e.toList.map fun e => .record e.record

theorem Credentials.record_redact (c : Credentials) : c.redact.record = c.record := rfl

theorem Refresher.sights_redact (c : Credentials) (r : Refresher) :
    r.redact.sights c.redact = r.sights c := by
  have hrecord := r.snapshot.record_redact
  have hsights := r.snapshot.sights_redact
  simp only [Refresher.sights, cacheRecord, Credentials.record_redact]
  rw [show r.redact.snapshot = r.snapshot.redact from rfl, hrecord, hsights]
  rfl

theorem Traffic.sights_redact (c : Credentials) (s : Traffic) :
    s.redact.sights c.redact = s.sights c := by
  have hrefresher := s.refresher.sights_redact c
  have hrecord := s.refresher.snapshot.record_redact
  simp only [Traffic.sights, cacheRecord] at hrefresher ⊢
  rw [show s.redact.refresher = s.refresher.redact from rfl, hrefresher,
    show s.refresher.redact.snapshot = s.refresher.snapshot.redact from rfl, hrecord]
  rfl

theorem Traffic.Signal.sights_redact (s : Traffic.Signal) : s.redact.sights = s.sights := by
  cases s with
  | refresh e => exact e.signal.sights_redact
  | refused q e => rfl
  | execute e => exact e.sights_redact

theorem Traffic.seen_redact (es : List Traffic.Signal) :
    Traffic.seen (es.map Traffic.Signal.redact) = Traffic.seen es := by
  rw [seen, seen, List.flatMap_map]
  congr 1
  funext e
  exact e.sights_redact

theorem Opening.sights_redact (c : Credentials) (policy : Policy) (tick now : Nat) (call : Call)
    (clock : Nat) :
    Opening.sights c.redact policy tick now call.redact clock =
      Opening.sights c policy tick now call clock := by
  rw [Opening.sights, Opening.sights, start_redact]
  cases Opening.start policy tick now call with
  | error f => rfl
  | ok p =>
    obtain ⟨o, front⟩ := p
    simp only [Except.map, conclude_redact, ← List.map_append, List.flatMap_map,
      FreshToken.Signal.sights_redact]
    cases (o.conclude clock).1 with
    | error f => rfl
    | ok r => simp only [Refresher.sights_redact]

theorem Credentials.ofStrings_alike (appId : String) {secret₁ secret₂ : String}
    (filled₁ : secret₁ ≠ "") (filled₂ : secret₂ ≠ "") :
    (Credentials.ofStrings appId secret₁).map Credentials.redact =
      (Credentials.ofStrings appId secret₂).map Credentials.redact := by
  have h₁ : secret₁.isEmpty = false := by simpa using filled₁
  have h₂ : secret₂.isEmpty = false := by simpa using filled₂
  rw [ofStrings, ofStrings]
  cases AppId.ofString appId with
  | error f => rfl
  | ok id =>
    simp only [h₁, h₂]
    rfl

theorem ClientPlan.check_alike {p₁ p₂ : ClientPlan}
    (same : { p₁ with appSecret := p₂.appSecret } = p₂) (filled₁ : p₁.appSecret ≠ "")
    (filled₂ : p₂.appSecret ≠ "") :
    p₁.check.map (fun b => (b.1.redact, b.2)) = p₂.check.map fun b => (b.1.redact, b.2) := by
  have hmade := Credentials.ofStrings_alike p₁.appId filled₁ filled₂
  rw [← same]
  simp only [check]
  cases h₁ : Credentials.ofStrings p₁.appId p₁.appSecret with
  | error f =>
    rw [h₁, eq_comm] at hmade
    cases h₂ : Credentials.ofStrings p₁.appId p₂.appSecret <;> rw [h₂] at hmade <;> cases hmade
    rfl
  | ok c₁ =>
    rw [h₁] at hmade
    cases h₂ : Credentials.ofStrings p₁.appId p₂.appSecret with
    | error f =>
      rw [h₂] at hmade
      cases hmade
    | ok c₂ =>
      rw [h₂] at hmade
      have hc : c₁.redact = c₂.redact := Except.ok.inj hmade
      cases p₁.isCustom with
      | true => simp only [if_true, Except.map, hc]
      | false =>
        cases p₁.tokenEndpoint with
        | none => simp only [Bool.false_eq_true, if_false, Except.map, hc]
        | some url =>
          simp only [Bool.false_eq_true, if_false]
          cases TokenEndpoint.ofUrl url with
          | error f => rfl
          | ok e => simp only [Except.map, hc]

/-- What shows of a plan depends on its credentials as little as they show. -/
theorem ClientPlan.sights_alike {p₁ p₂ : ClientPlan}
    (same : { p₁ with appSecret := p₂.appSecret } = p₂) (filled₁ : p₁.appSecret ≠ "")
    (filled₂ : p₂.appSecret ≠ "") : p₁.sights = p₂.sights := by
  have hcheck := check_alike same filled₁ filled₂
  have hrecord : p₁.record = p₂.record := by rw [← same]; rfl
  rw [sights, sights, hrecord]
  cases h₁ : p₁.check with
  | error f =>
    rw [h₁, eq_comm] at hcheck
    cases h₂ : p₂.check <;> rw [h₂] at hcheck <;> cases hcheck
    rfl
  | ok b₁ =>
    rw [h₁] at hcheck
    cases h₂ : p₂.check with
    | error f =>
      rw [h₂] at hcheck
      cases hcheck
    | ok b₂ =>
      rw [h₂] at hcheck
      obtain ⟨hc, he⟩ := Prod.mk.inj (Except.ok.inj hcheck)
      have hshown : b₁.1.redact.record = b₂.1.redact.record := by rw [hc]
      rw [Credentials.record_redact, Credentials.record_redact] at hshown
      simp only [hshown, he]
      rfl

def Sight.readings (sights : List Sight) : List (List String) := sights.map Sight.texts

/-- Nothing that can be seen of a client shows a secret.  Two plans that differ in their secrets
alone are accepted or rejected alike.  Caches and clients with such credentials, whose calls of the
authenticator come to the same but for the texts of tokens, open or fail alike and can make the same
moves, and at every moment everything that can be read of them and of their logs is the same. -/
theorem secrets_do_not_show {p₁ p₂ : ClientPlan}
    (same : { p₁ with appSecret := p₂.appSecret } = p₂) (filled₁ : p₁.appSecret ≠ "")
    (filled₂ : p₂.appSecret ≠ "") :
    Sight.readings p₁.sights = Sight.readings p₂.sights ∧
      p₁.check.map (fun b => (b.1.redact, b.2)) = p₂.check.map (fun b => (b.1.redact, b.2)) ∧
      ∀ (c₁ c₂ : Credentials) (call₁ call₂ : Call), c₁.redact = c₂.redact →
        call₁.redact = call₂.redact → ∀ (policy : Policy) (tick now clock capacity : Nat),
        Sight.readings (Opening.sights c₁ policy tick now call₁ clock) =
            Sight.readings (Opening.sights c₂ policy tick now call₂ clock) ∧
          (∀ moves₁ moves₂ : List Refresher.Move,
            moves₁.map Refresher.Move.redact = moves₂.map Refresher.Move.redact →
            (Opening.run? policy tick now call₁ clock moves₁).map (fun p =>
                (Sight.readings (p.1.sights c₁), Sight.readings (Refresher.seen p.2))) =
              (Opening.run? policy tick now call₂ clock moves₂).map fun p =>
                (Sight.readings (p.1.sights c₂), Sight.readings (Refresher.seen p.2))) ∧
          ∀ moves₁ moves₂ : List Traffic.Move,
            moves₁.map Traffic.Move.redact = moves₂.map Traffic.Move.redact →
            (Traffic.run? policy tick now call₁ clock capacity moves₁).map (fun p =>
                (Sight.readings (p.1.sights c₁), Sight.readings (Traffic.seen p.2))) =
              (Traffic.run? policy tick now call₂ clock capacity moves₂).map fun p =>
                (Sight.readings (p.1.sights c₂), Sight.readings (Traffic.seen p.2)) := by
  refine ⟨congrArg _ (ClientPlan.sights_alike same filled₁ filled₂),
    ClientPlan.check_alike same filled₁ filled₂, ?_⟩
  intro c₁ c₂ call₁ call₂ hc hcall policy tick now clock capacity
  refine ⟨?_, fun moves₁ moves₂ hmoves => ?_, fun moves₁ moves₂ hmoves => ?_⟩
  · rw [← Opening.sights_redact c₁, ← Opening.sights_redact c₂, hc, hcall]
  · have hruns := congrArg (Option.map fun p =>
      (Sight.readings (p.1.sights c₁.redact), Sight.readings (Refresher.seen p.2)))
      (Opening.run?_alike policy tick now clock hcall hmoves)
    simp only [Option.map_map, Function.comp_def, Refresher.seen_redact,
      Refresher.sights_redact] at hruns
    rw [hruns]
    congr 1
    funext p
    rw [← Refresher.sights_redact c₁, ← Refresher.sights_redact c₂, hc]
  · have hruns := congrArg (Option.map fun p =>
      (Sight.readings (p.1.sights c₁.redact), Sight.readings (Traffic.seen p.2)))
      (Traffic.run?_alike policy tick now clock capacity hcall hmoves)
    simp only [Option.map_map, Function.comp_def, Traffic.seen_redact,
      Traffic.sights_redact] at hruns
    rw [hruns]
    congr 1
    funext p
    rw [← Traffic.sights_redact c₁, ← Traffic.sights_redact c₂, hc]

/-- A call as prompt as `Refresher.promptCall`, with a token of its own. -/
def otherCall : Call := ⟨some 2000000, .issued ⟨⟨"other"⟩, .whole 7200 Refresher.twoHours_lt⟩⟩

/-- Two clients for one application that have different secrets and get different tokens. -/
theorem secrets_do_not_show_of_cutOff :
    let left : ClientPlan := ⟨"wx_demo", "left", none, 4, .standard, false⟩
    let right : ClientPlan := { left with appSecret := "right" }
    Sight.readings left.sights = Sight.readings right.sights ∧
      ∃ c₁ c₂ r₁ r₂ es₁ es₂, c₁.appSecret ≠ c₂.appSecret ∧ r₁.snapshot.token ≠ r₂.snapshot.token ∧
        Opening.run? .standard 1000000 0 Refresher.promptCall 0 Refresher.cutOffMoves =
          some (r₁, es₁) ∧
        Opening.run? .standard 1000000 0 otherCall 0 Refresher.cutOffMoves = some (r₂, es₂) ∧
        Sight.readings (r₁.sights c₁) = Sight.readings (r₂.sights c₂) ∧
        Sight.readings (Refresher.seen es₁) = Sight.readings (Refresher.seen es₂) := by
  intro left right
  have hid : appIdFault? "wx_demo" = none := by decide
  let c₁ : Credentials := ⟨⟨"wx_demo", hid⟩, ⟨"left"⟩⟩
  let c₂ : Credentials := ⟨⟨"wx_demo", hid⟩, ⟨"right"⟩⟩
  obtain ⟨hplans, _, hcaches⟩ := @secrets_do_not_show left right rfl (by decide) (by decide)
  have hcredentials : c₁.redact = c₂.redact := rfl
  have hcall : Refresher.promptCall.redact = otherCall.redact := rfl
  have hcache := hcaches c₁ c₂ _ _ hcredentials hcall .standard 1000000 0 0 4
  have hruns := hcache.2.1 Refresher.cutOffMoves Refresher.cutOffMoves rfl
  have htokens₁ : (Opening.run? .standard 1000000 0 Refresher.promptCall 0
      Refresher.cutOffMoves).map (fun p => p.1.snapshot.token) = some (some ⟨"first"⟩) := by rfl
  have htokens₂ : (Opening.run? .standard 1000000 0 otherCall 0
      Refresher.cutOffMoves).map (fun p => p.1.snapshot.token) = some (some ⟨"other"⟩) := by rfl
  obtain ⟨⟨r₁, es₁⟩, h₁, htoken₁⟩ := Option.map_eq_some_iff.1 htokens₁
  obtain ⟨⟨r₂, es₂⟩, h₂, htoken₂⟩ := Option.map_eq_some_iff.1 htokens₂
  rw [h₁, h₂] at hruns
  obtain ⟨hsights, hseen⟩ := Prod.mk.inj (Option.some.inj hruns)
  refine ⟨hplans, c₁, c₂, r₁, r₂, es₁, es₂, ?_, ?_, h₁, h₂, hsights, hseen⟩
  · exact fun heq => absurd (congrArg Secret.exposed heq) (by decide : "left" ≠ "right")
  · rw [show r₁.snapshot.token = some ⟨"first"⟩ from htoken₁,
      show r₂.snapshot.token = some ⟨"other"⟩ from htoken₂]
    decide

end FreshToken
