import FreshToken.Proofs.Executor.Step
/-!
# The course of a call

What the log says of one call is determined by its request and by what the transport answers, as
long as buffers are empty when they are written to.  `Course` lists how far it can have come.
-/

namespace FreshToken.Calls

open Machine

variable {σ μ ε : Type} {L : Lender σ μ ε} {s s' : Calls σ} {m : Move μ}
  {es new : List (Signal ε)}

/-- What calls themselves do, whoever lends them their buffers. -/
@[simp] def Signal.own? : Signal ε → Option (Signal Empty)
  | .called n q => some (.called n q)
  | .noted n x => some (.noted n x)
  | .sent n url body? => some (.sent n url body?)
  | .answered n a => some (.answered n a)
  | .cancelled n => some (.cancelled n)
  | .returned n result => some (.returned n result)
  | .lender _ => none

abbrev own (es : List (Signal ε)) : List (Signal Empty) := es.filterMap Signal.own?

@[simp] theorem own_lender (l : List ε) : own (l.map Signal.lender) = [] := by
  induction l with
  | nil => rfl
  | cons e rest ih => rw [List.map_cons, own, filterMap_cons_toList, ← own, ih]; rfl

@[simp] theorem own_drop (lease? : Option Nat) : own (s.drop L lease?).2 = [] := by
  cases lease? with
  | none => rfl
  | some j => exact own_lender _

@[simp] theorem own_closing (n : Nat) (result? : Option (Except Error Json.Value)) :
    own (closing (ε := ε) n result?) = closing n result? := by
  cases result? <;> rfl

def Signal.call : Signal Empty → Nat
  | .called n _ | .noted n _ | .sent n _ _ | .answered n _ | .cancelled n | .returned n _ => n

def trace (n : Nat) (es : List (Signal ε)) : List (Signal Empty) :=
  (own es).filter (·.call == n)

theorem trace_append (n : Nat) (es new : List (Signal ε)) :
    trace n (es ++ new) = trace n es ++ trace n new := by
  rw [trace, own, List.filterMap_append, List.filter_append]
  rfl

theorem mem_trace {n : Nat} {e : Signal ε} {x : Signal Empty} (h : e ∈ es) (own : e.own? = some x)
    (call : x.call = n) : x ∈ trace n es :=
  List.mem_filter.2 ⟨List.mem_filterMap.2 ⟨e, h, own⟩, by simpa using call⟩

def Signal.widen : Signal Empty → Signal ε
  | .called n q => .called n q
  | .noted n x => .noted n x
  | .sent n url body? => .sent n url body?
  | .answered n a => .answered n a
  | .cancelled n => .cancelled n
  | .returned n result => .returned n result
  | .lender e => e.elim

theorem mem_of_mem_trace {n : Nat} {x : Signal Empty} (h : x ∈ trace n es) : x.widen ∈ es := by
  obtain ⟨e, he, hx⟩ := List.mem_filterMap.1 (List.mem_of_mem_filter h)
  cases e with
  | lender e => cases hx
  | _ =>
    cases hx
    exact he

theorem trace_of_call {n : Nat} {ts : List (Signal Empty)} (h : own new = ts)
    (call : ∀ e ∈ ts, e.call = n) : trace n new = ts := by
  rw [trace, h]
  exact List.filter_eq_self.2 fun e he => by simpa using call e he

theorem trace_of_ne {n i : Nat} {ts : List (Signal Empty)} (h : own new = ts)
    (call : ∀ e ∈ ts, e.call = n) (hne : n ≠ i) : trace i new = [] := by
  rw [trace, h]
  exact List.filter_eq_nil_iff.2 fun e he => by simpa [call e he] using hne

/-! ## One trace for each call -/

structure Traced (C : Nat → Job → List (Signal Empty) → Prop) (s : Calls σ)
    (es : List (Signal ε)) : Prop where
  trace : ∀ (n : Nat) (job : Job), s.jobs[n]? = some job → C n job (trace n es)
  silent : ∀ n, s.jobs.length ≤ n → Calls.trace n es = []

section
variable {C : Nat → Job → List (Signal Empty) → Prop} {lender : σ}

theorem Traced.append {job : Job} (ts : List (Signal Empty)) (hc : Traced C s es)
    (hown : own new = ts) (call : ∀ e ∈ ts, e.call = s.jobs.length)
    (first : C s.jobs.length job ts) : Traced C ⟨lender, s.jobs ++ [job]⟩ (es ++ new) where
  trace n x hx := by
    rw [trace_append]
    rcases eq_or_of_append hx with ⟨rfl, rfl⟩ | ⟨hlt, hold⟩
    · rw [hc.silent _ (Nat.le_refl _), trace_of_call hown call]
      exact first
    · rw [trace_of_ne hown call (Nat.ne_of_gt hlt), List.append_nil]
      exact hc.trace n x hold
  silent n hn := by
    rw [List.length_append, List.length_singleton] at hn
    rw [trace_append, hc.silent n (by omega), trace_of_ne hown call (by omega)]
    rfl

theorem Traced.set {n : Nat} {before after : Job} (ts : List (Signal Empty)) (hc : Traced C s es)
    (job : s.jobs[n]? = some before) (hown : own new = ts) (call : ∀ e ∈ ts, e.call = n)
    (next : ∀ us, C n before us → C n after (us ++ ts)) :
    Traced C ⟨lender, s.jobs.set n after⟩ (es ++ new) where
  trace i x hx := by
    rw [trace_append]
    rcases eq_or_of_set hx with ⟨rfl, rfl⟩ | ⟨hne, hold⟩
    · rw [trace_of_call hown call]
      exact next _ (hc.trace n _ job)
    · rw [trace_of_ne hown call hne, List.append_nil]
      exact hc.trace i x hold
  silent i hi := by
    have hlt := lt_of_getElem? job
    rw [List.length_set] at hi
    rw [trace_append, hc.silent i hi, trace_of_ne hown call (by omega)]
    rfl

theorem Traced.others {l : List ε} (hc : Traced C s es) :
    Traced C { s with lender := lender } (es ++ l.map .lender) := by
  have hsame : ∀ n, Calls.trace n (es ++ l.map .lender) = Calls.trace n es := by
    intro n
    rw [trace_append, Calls.trace, Calls.trace, own_lender, List.filter_nil, List.append_nil]
  constructor
  · intro n job hjob
    rw [hsame]
    exact hc.trace n job hjob
  · intro n hn
    rw [hsame]
    exact hc.silent n hn

end

/-! ## Courses -/

inductive Dispatched (n : Nat) (q : Request) : List (Signal Empty) → Prop where
  | get (payload : q.payload = none) :
    Dispatched n q (.called n q :: opening n .getJson ++ [.sent n q.url none])
  | post {p : Payload} (payload : q.payload = some p) (formed : p.encode.2 = none) :
    Dispatched n q (.called n q :: opening n .postJson ++ [.sent n q.url (some p.encode.1)])

/-- The traces that a call can have, by how far it has come. -/
inductive Course (n : Nat) (q : Request) : Progress → List (Signal Empty) → Prop where
  | leasing {p : Payload} {j : Nat} (payload : q.payload = some p) :
    Course n q (.leasing j) (.called n q :: opening n .postJson)
  | pending {lease? : Option Nat} {ts : List (Signal Empty)} (sent : Dispatched n q ts) :
    Course n q (.pending lease?) ts
  /-- Nothing is sent if the payload has no JSON form. -/
  | spoiled {lease? : Option Nat} {p : Payload} {f : Json.Fault} (payload : q.payload = some p)
      (formless : p.encode.2 = some f) :
    Course n q (.ending lease? (some (.error (.encoding f)))) (.called n q :: opening n .postJson)
  | answered {lease? : Option Nat} {ts : List (Signal Empty)}
      (a : Except TransportFault Response) (sent : Dispatched n q ts) :
    Course n q (.ending lease? (some (Executor.readAnswer q.reader a))) (ts ++ [.answered n a])
  | cancelled {lease? : Option Nat} {ts : List (Signal Empty)} (sent : Dispatched n q ts) :
    Course n q (.ending lease? none) (ts ++ [.cancelled n])
  | closed {lease? : Option Nat} {result? : Option (Except Error Json.Value)}
      {ts : List (Signal Empty)} (ending : Course n q (.ending lease? result?) ts) :
    Course n q .ended (ts ++ closing n result?)

def Clean (L : Lender σ μ ε) (s : Calls σ) : Prop :=
  ∀ (n j : Nat) (q : Request) (buffer : List UInt8), s.jobs[n]? = some ⟨q, .leasing j⟩ →
    L.content? s.lender j = some buffer → buffer = []

structure Courses (s : Calls σ) (es : List (Signal ε)) : Prop where
  course : ∀ (n : Nat) (job : Job), s.jobs[n]? = some job →
    Course n job.request job.progress (trace n es)
  silent : ∀ n, s.jobs.length ≤ n → trace n es = []

theorem courses_start (l : σ) : Courses (ε := ε) (start l) [] where
  course n job h := by cases h
  silent n h := rfl

theorem Courses.traced (hc : Courses s es) :
    Traced (fun n job => Course n job.request job.progress) s es := ⟨hc.course, hc.silent⟩

theorem Traced.courses (hc : Traced (fun n job => Course n job.request job.progress) s es) :
    Courses s es := ⟨hc.trace, hc.silent⟩

theorem Courses.append {lender : σ} {job : Job} (ts : List (Signal Empty)) (hc : Courses s es)
    (hown : own new = ts) (call : ∀ e ∈ ts, e.call = s.jobs.length)
    (first : Course s.jobs.length job.request job.progress ts) :
    Courses ⟨lender, s.jobs ++ [job]⟩ (es ++ new) :=
  (hc.traced.append ts hown call first).courses

theorem Courses.set {lender : σ} {n : Nat} {q : Request} {before after : Progress}
    (ts : List (Signal Empty)) (hc : Courses s es) (job : s.jobs[n]? = some ⟨q, before⟩)
    (hown : own new = ts) (call : ∀ e ∈ ts, e.call = n)
    (next : ∀ us, Course n q before us → Course n q after (us ++ ts)) :
    Courses ⟨lender, s.jobs.set n ⟨q, after⟩⟩ (es ++ new) :=
  (hc.traced.set ts job hown call next).courses

theorem Step.courses (h : Step L s m s' new) (clean : Clean L s) (hc : Courses s es) :
    Courses s' (es ++ new) := by
  cases h with
  | get hpayload =>
    refine hc.append (.called _ _ :: opening _ .getJson ++ [.sent _ _ none]) rfl ?_
      (.pending (.get hpayload))
    simp [opening, Signal.call]
  | post hpayload =>
    refine hc.append (.called _ _ :: opening _ .postJson) ?_ ?_ (.leasing hpayload)
    · simp [opening]
    · simp [opening, Signal.call]
  | @send n j q p buffer hjob hpayload hready hformed =>
    obtain rfl := clean n j q buffer hjob hready
    refine hc.set [.sent n q.url (some p.encode.1)] hjob (by simp) ?_ fun us hus => ?_
    · simp [Signal.call]
    · cases hus
      exact .pending (.post hpayload hformed)
  | @spoil n j q p buffer f hjob hpayload hready hformless =>
    apply hc.set [] hjob (by simp) (by simp)
    intro us hus
    cases hus
    rw [List.append_nil]
    exact .spoiled hpayload hformless
  | @answer n q lease? a hjob =>
    rw [Calls.set, jobs_drop]
    refine hc.set [.answered n a] hjob (by simp) ?_ fun us hus => ?_
    · simp [Signal.call]
    · cases hus with
      | pending hsent => exact .answered a hsent
  | @cancel n q lease? hjob =>
    rw [Calls.set, jobs_drop]
    refine hc.set [.cancelled n] hjob (by simp) ?_ fun us hus => ?_
    · simp [Signal.call]
    · cases hus with
      | pending hsent => exact .cancelled hsent
  | @close n q lease? result? hjob hback =>
    refine hc.set (closing n result?) hjob (own_closing n result?) ?_ fun us hus =>
      .closed hus
    cases result? <;> simp [closing, Signal.call]
  | others => exact hc.traced.others.courses

/-! ## What one call comes to -/

/-- What the transport is given for a request: nothing if the payload has no JSON form. -/
def dispatch (q : Request) : List (Url × Option (List UInt8)) :=
  match q.payload with
  | none => [(q.url, none)]
  | some p =>
    match p.encode.2 with
    | none => [(q.url, some p.encode.1)]
    | some _ => []

def Progress.outbound (q : Request) : Progress → List (Url × Option (List UInt8))
  | .leasing _ => []
  | _ => dispatch q

def Signal.sent? : Signal Empty → Option (Url × Option (List UInt8))
  | .sent _ url body? => some (url, body?)
  | _ => none

def outbound (n : Nat) (es : List (Signal ε)) : List (Url × Option (List UInt8)) :=
  (trace n es).filterMap Signal.sent?

/-- What a result comes from: the payload, or the answer that the transport brought. -/
def Yields (n : Nat) (q : Request) (ts : List (Signal Empty)) (result : Except Error Json.Value) :
    Prop :=
  (∃ p f, q.payload = some p ∧ p.encode.2 = some f ∧ result = .error (.encoding f)) ∨
    ∃ a, .answered n a ∈ ts ∧ result = Executor.readAnswer q.reader a

section
variable {n : Nat} {q r : Request} {p : Progress} {ts : List (Signal Empty)}
  {result : Except Error Json.Value}

theorem mem_dispatch {p : Payload} {url : Url} {body? : Option (List UInt8)}
    (hp : q.payload = some p) (h : (url, body?) ∈ dispatch q) :
    url = q.url ∧ body? = some p.encode.1 ∧ p.encode.2 = none := by
  unfold dispatch at h
  rw [hp] at h
  cases hfault : p.encode.2 with
  | none => simpa [hfault] using h
  | some f => simp [hfault] at h

theorem Dispatched.called (h : Dispatched n q ts) (hr : .called n r ∈ ts) : r = q := by
  cases h <;> simpa [opening] using hr

theorem Course.called (h : Course n q p ts) (hr : .called n r ∈ ts) : r = q := by
  induction h with
  | leasing | spoiled => simpa [opening] using hr
  | pending hsent => exact hsent.called hr
  | answered a hsent | cancelled hsent => exact hsent.called (by simpa using hr)
  | @closed lease? result? ts _ ih =>
    refine ih ?_
    cases result? <;> simpa [closing] using hr

/-- Only posts wait for buffers, and until then only their begin is known. -/
theorem Course.of_leasing {j : Nat} (h : Course n q (.leasing j) ts) :
    ∃ p, q.payload = some p ∧ ts = .called n q :: opening n .postJson := by
  cases h with
  | leasing hpayload => exact ⟨_, hpayload, rfl⟩

theorem Dispatched.outbound (h : Dispatched n q ts) : ts.filterMap Signal.sent? = dispatch q := by
  cases h with
  | get hpayload => simp [dispatch, hpayload, opening, Signal.sent?]
  | post hpayload hformed => simp [dispatch, hpayload, hformed, opening, Signal.sent?]

/-- A call gives its request to the transport once, and only when it has its buffer. -/
theorem Course.outbound (h : Course n q p ts) : ts.filterMap Signal.sent? = p.outbound q := by
  induction h with
  | leasing => rfl
  | pending hsent => exact hsent.outbound
  | spoiled hpayload hformless =>
    simp [Progress.outbound, dispatch, hpayload, hformless, opening, Signal.sent?]
  | answered a hsent | cancelled hsent =>
    rw [List.filterMap_append, hsent.outbound]
    exact List.append_nil _
  | @closed lease? result? ts _ ih =>
    rw [List.filterMap_append, ih]
    cases result? <;> exact List.append_nil _

theorem Course.sent {p : Payload} {progress : Progress} {url : Url} {body? : Option (List UInt8)}
    (h : Course n q progress ts) (hp : q.payload = some p) (hsent : .sent n url body? ∈ ts) :
    url = q.url ∧ body? = some p.encode.1 ∧ p.encode.2 = none := by
  have hmem : (url, body?) ∈ progress.outbound q := by
    rw [← h.outbound]
    exact List.mem_filterMap.2 ⟨_, hsent, rfl⟩
  cases progress with
  | leasing j => cases hmem
  | _ => exact mem_dispatch hp hmem

/-- The payload of a post that was sent has a JSON form. -/
theorem Course.formed {p : Payload} {lease? : Option Nat} (h : Course n q (.pending lease?) ts)
    (hp : q.payload = some p) : p.encode.2 = none := by
  cases h with
  | pending hsent =>
    cases hsent with
    | get hpayload =>
      rw [hpayload] at hp
      cases hp
    | post hpayload hformed =>
      rw [hpayload] at hp
      cases hp
      exact hformed

theorem Dispatched.silent (h : Dispatched n q ts) : .returned n result ∉ ts := by
  cases h <;> simp [opening]

theorem Yields.append (h : Yields n q ts result) (us : List (Signal Empty)) :
    Yields n q (ts ++ us) result := by
  rcases h with hspoiled | ⟨a, ha, hresult⟩
  · exact Or.inl hspoiled
  · exact Or.inr ⟨a, List.mem_append_left _ ha, hresult⟩

theorem Course.ending {lease? : Option Nat} (h : Course n q (.ending lease? (some result)) ts) :
    Yields n q ts result := by
  cases h with
  | spoiled hpayload hformless => exact Or.inl ⟨_, _, hpayload, hformless, rfl⟩
  | answered a hsent => exact Or.inr ⟨a, by simp, rfl⟩

theorem Course.yields (h : Course n q p ts) (hreturned : .returned n result ∈ ts) :
    Yields n q ts result := by
  induction h with
  | leasing | spoiled => simp [opening] at hreturned
  | pending hsent => exact absurd hreturned hsent.silent
  | answered a hsent | cancelled hsent => exact absurd (by simpa using hreturned) hsent.silent
  | @closed lease? result? ts hending ih =>
    rcases List.mem_append.1 hreturned with hbefore | hnow
    · exact (ih hbefore).append _
    · cases result? with
      | none => cases hnow
      | some r =>
        obtain rfl : result = r := by simpa [closing] using hnow
        exact hending.ending.append _

end

theorem Step.called {q : Request} (h : Step L s (.call q) s' new) :
    .called s.jobs.length q ∈ new := by
  cases h <;> simp

/-- A call that has written its body is done with sending. -/
theorem Step.encoded {n : Nat} {q : Request} {p : Progress} (h : Step L s (.encode n) s' new)
    (hjob : s.jobs[n]? = some ⟨q, p⟩) :
    ∃ p', s'.jobs[n]? = some ⟨q, p'⟩ ∧ p'.outbound q = dispatch q := by
  cases h with
  | send hleasing | spoil hleasing =>
    rw [hleasing] at hjob
    cases hjob
    exact ⟨_, getElem?_set_of_getElem? _ hleasing, rfl⟩

/-- The call that a signal is about has come. -/
theorem Courses.job {n : Nat} {q : Request} (hc : Courses s es) (h : .called n q ∈ es) :
    ∃ p, s.jobs[n]? = some ⟨q, p⟩ ∧ Course n q p (trace n es) := by
  have hmem : .called n q ∈ trace n es := mem_trace h rfl rfl
  by_cases hlt : n < s.jobs.length
  · have hjob := List.getElem?_eq_getElem hlt
    have hcourse := hc.course n _ hjob
    obtain rfl := hcourse.called hmem
    exact ⟨_, hjob, hcourse⟩
  · rw [hc.silent n (Nat.le_of_not_lt hlt)] at hmem
    cases hmem

end FreshToken.Calls
