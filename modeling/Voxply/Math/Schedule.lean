/-
# Requests served side by side

A server starts a job for every request and executes the statements of the
jobs in progress one at a time, in an order that nobody controls.  The moves of
a schedule say which job goes next; every interleaving is a list of moves.  The
server keeps a history: each executed statement with its job, its request and
the state that it found.

What a program may send is described by `Prog.Follows`: a condition on each
statement that may refer to everything the program itself has sent before, and
so to everything it has read.  `Interleaving` is what such a condition leaves of
a run once the programs are forgotten.  Properties of every schedule are proved
by induction over it.
-/

import Voxply.Math.Statement
import Voxply.Math.Trace

namespace Voxply.Math

universe u v w x

/-- A statement together with the state it was executed in. -/
structure Sent (S : Type u) where
  statement : S → S
  before : S

/-- The state that the statement left. -/
def Sent.after {S : Type u} (sent : Sent S) : S :=
  sent.statement sent.before

@[simp]
theorem Sent.after_mk {S : Type u} (statement : S → S) (s : S) :
    (Sent.mk statement s).after = statement s := rfl

/-- A statement that only reads. -/
theorem Sent.after_of_id {S : Type u} {sent : Sent S} (h : sent.statement = id) :
    sent.after = sent.before := by
  rw [Sent.after, h]
  rfl

/-! ## What a program sends -/

namespace Prog

variable {S : Type u} {E : Type v} {A B : Type w}

/-- What a finished program answered. -/
def answer? : Prog S E A → Option (Except E A)
  | .ret a => some (.ok a)
  | .fail e => some (.error e)
  | .step _ _ => none

/-- Whatever states the program finds, each statement meets the condition after
what has been sent before, and a returned value satisfies `post`. -/
def Follows (good : List (Sent S) → Sent S → Prop) (post : A → List (Sent S) → Prop) :
    Prog S E A → List (Sent S) → Prop
  | .ret a, past => post a past
  | .fail _, _ => True
  | .step act next, past =>
      ∀ s, good past ⟨act, s⟩ ∧ (next s).Follows good post (past ++ [⟨act, s⟩])

variable {good : List (Sent S) → Sent S → Prop} {post : A → List (Sent S) → Prop}
  {past : List (Sent S)}

/-- The rule of consequence. What was sent in the meantime extends the past. -/
theorem Follows.mono {good' : List (Sent S) → Sent S → Prop} {post' : A → List (Sent S) → Prop}
    {p : Prog S E A} (h : p.Follows good post past)
    (hgood : ∀ past' sent, past <+: past' → good past' sent → good' past' sent)
    (hpost : ∀ a past', past <+: past' → post a past' → post' a past') :
    p.Follows good' post' past := by
  induction p generalizing past with
  | ret a => exact hpost a past (List.prefix_refl past) h
  | fail e => trivial
  | step act next ih =>
      intro s
      refine ⟨hgood past _ (List.prefix_refl past) (h s).1, ih s (h s).2 ?_ ?_⟩
      · exact fun past' sent hpast => hgood past' sent ((List.prefix_append ..).trans hpast)
      · exact fun a past' hpast => hpost a past' ((List.prefix_append ..).trans hpast)

theorem Follows.and {good' : List (Sent S) → Sent S → Prop} {post' : A → List (Sent S) → Prop}
    {p : Prog S E A} (h : p.Follows good post past) (h' : p.Follows good' post' past) :
    p.Follows (fun past sent => good past sent ∧ good' past sent)
      (fun a past => post a past ∧ post' a past) past := by
  induction p generalizing past with
  | ret a => exact ⟨h, h'⟩
  | fail e => trivial
  | step act next ih =>
      intro s
      exact ⟨⟨(h s).1, (h' s).1⟩, ih s (h s).2 (h' s).2⟩

/-- The rule for sequencing. What the first part established about the past is
known to the second. -/
theorem Follows.bind {p : Prog S E A} {f : A → Prog S E B} {post' : B → List (Sent S) → Prop}
    (h : p.Follows good post past)
    (hf : ∀ a past', past <+: past' → post a past' → (f a).Follows good post' past') :
    (p >>= f).Follows good post' past := by
  change (p.bind f).Follows good post' past
  induction p generalizing past with
  | ret a => exact hf a past (List.prefix_refl past) h
  | fail e => trivial
  | step act next ih =>
      intro s
      refine ⟨(h s).1, ih s (h s).2 ?_⟩
      exact fun a past' hpast => hf a past' ((List.prefix_append ..).trans hpast)

/-- Sequencing after a part that need not establish anything. -/
theorem Follows.bind_any {p : Prog S E A} {f : A → Prog S E B} {post' : B → List (Sent S) → Prop}
    (h : p.Follows good (fun _ _ => True) past)
    (hf : ∀ a past', past <+: past' → (f a).Follows good post' past') :
    (p >>= f).Follows good post' past :=
  h.bind fun a past' hpast _ => hf a past' hpast

/-- A program that returns has established what it promises. -/
theorem Follows.of_run {p : Prog S E A} (h : p.Follows good post past) {s : S} {a : A}
    (hrun : (p.run s).1 = .ok a) : ∃ past', post a past' := by
  induction p generalizing past s with
  | ret b =>
      cases hrun
      exact ⟨past, h⟩
  | fail e => cases hrun
  | step act next ih => exact ih s (h s).2 hrun

theorem follows_ret {a : A} (h : post a past) : (ret a : Prog S E A).Follows good post past :=
  h

theorem follows_fail (e : E) : (fail e : Prog S E A).Follows good post past :=
  trivial

theorem follows_query {f : S → A} (hgood : ∀ s, good past ⟨id, s⟩)
    (hpost : ∀ s, post (f s) (past ++ [⟨id, s⟩])) :
    (query f : Prog S E A).Follows good post past :=
  fun s => ⟨hgood s, hpost s⟩

theorem follows_query_bind {f : S → A} {g : A → Prog S E B} {post : B → List (Sent S) → Prop}
    (hgood : ∀ s, good past ⟨id, s⟩)
    (hnext : ∀ s, (g (f s)).Follows good post (past ++ [⟨id, s⟩])) :
    (query f >>= g).Follows good post past :=
  fun s => ⟨hgood s, hnext s⟩

theorem follows_exec_bind {f : S → S} {g : PUnit → Prog S E A} (hgood : ∀ s, good past ⟨f, s⟩)
    (hnext : ∀ s, (g ⟨⟩).Follows good post (past ++ [⟨f, s⟩])) :
    (exec f >>= g).Follows good post past :=
  fun s => ⟨hgood s, hnext s⟩

/-- What a write that may be refused does to the state. -/
def attempted (f : S → Except E S) (s : S) : S :=
  match f s with
  | .ok t => t
  | .error _ => s

theorem follows_attempt {f : S → Except E S} {act : S → S} {post : PUnit → List (Sent S) → Prop}
    (hact : attempted f = act) (hgood : ∀ s, good past ⟨act, s⟩)
    (hpost : ∀ s t, f s = .ok t → post ⟨⟩ (past ++ [⟨act, s⟩])) :
    (attempt f).Follows good post past := by
  subst hact
  intro s
  refine ⟨hgood s, ?_⟩
  dsimp only
  cases hf : f s with
  | ok t => exact hpost s t hf
  | error e => trivial

theorem follows_ofExcept {r : Except E A} (h : ∀ a, r = .ok a → post a past) :
    (ofExcept r : Prog S E A).Follows good post past := by
  cases r with
  | ok a => exact h a rfl
  | error e => trivial

theorem follows_ofExcept_bind {r : Except E A} {f : A → Prog S E B}
    {post : B → List (Sent S) → Prop} (h : ∀ a, r = .ok a → (f a).Follows good post past) :
    (ofExcept r >>= f).Follows good post past := by
  cases r with
  | ok a => exact h a rfl
  | error e => trivial

theorem follows_ensure_bind {c : Prop} [Decidable c] {e : E} {f : PUnit → Prog S E A}
    (h : c → (f ⟨⟩).Follows good post past) :
    (ensure c e >>= f).Follows good post past := by
  unfold ensure
  split_ifs with hc
  · exact h hc
  · trivial

theorem follows_ensure {c : Prop} [Decidable c] {e : E} {post : PUnit → List (Sent S) → Prop}
    (h : c → post ⟨⟩ past) : (ensure c e : Prog S E PUnit).Follows good post past := by
  unfold ensure
  split_ifs with hc
  · exact h hc
  · trivial

theorem follows_when {c : Prop} [Decidable c] {p : Prog S E PUnit}
    {post : PUnit → List (Sent S) → Prop} (hp : c → p.Follows good post past)
    (hskip : ¬ c → post ⟨⟩ past) : (when c p).Follows good post past := by
  unfold when
  split_ifs with hc
  · exact hp hc
  · exact hskip hc

theorem follows_whenSome {C : Type w} {o : Option C} {f : C → Prog S E PUnit}
    {post : PUnit → List (Sent S) → Prop} (hf : ∀ c, o = some c → (f c).Follows good post past)
    (hskip : o = none → post ⟨⟩ past) : (whenSome o f).Follows good post past := by
  cases o with
  | none => exact hskip rfl
  | some c => exact hf c rfl

/-- A handler of failures goes on after whatever has been sent. -/
theorem Follows.recover {p : Prog S E A} {handle : E → Prog S E A} (h : p.Follows good post past)
    (hhandle : ∀ e past', past <+: past' → (handle e).Follows good post past') :
    (p.recover handle).Follows good post past := by
  induction p generalizing past with
  | ret a => exact h
  | fail e => exact hhandle e past (List.prefix_refl past)
  | step act next ih =>
      intro s
      refine ⟨(h s).1, ih s (h s).2 ?_⟩
      exact fun e past' hpast => hhandle e past' ((List.prefix_append ..).trans hpast)

/-- The loop rule, for loops whose statements are fine after any past. -/
theorem follows_each {C : Type w} {cs : List C} {f : C → Prog S E PUnit}
    (hf : ∀ c ∈ cs, ∀ past', past <+: past' → (f c).Follows good (fun _ _ => True) past') :
    (each cs f).Follows good (fun _ _ => True) past := by
  induction cs generalizing past with
  | nil => trivial
  | cons c rest ih =>
      apply Follows.bind (hf c List.mem_cons_self past (List.prefix_refl past))
      intro _ past' hpast _
      apply ih
      intro c' hc' past'' hpast'
      exact hf c' (List.mem_cons_of_mem c hc') past'' (hpast.trans hpast')

/-- A program that runs alone does what its statements do. -/
theorem Follows.run_rel {rel : S → S → Prop} (hrefl : ∀ a, rel a a)
    (htrans : ∀ a b c, rel a b → rel b c → rel a c) {p : Prog S E A}
    (h : p.Follows good post past)
    (hgood : ∀ past sent, good past sent → rel sent.before sent.after) (s : S) :
    rel s (p.run s).2 := by
  induction p generalizing past s with
  | ret a => exact hrefl s
  | fail e => exact hrefl s
  | step act next ih => exact htrans _ _ _ (hgood past _ (h s).1) (ih s (h s).2 (act s))

/-- A program that sends queries only leaves the state as it is. -/
theorem Follows.reads {p : Prog S E A} (h : p.Follows (fun _ sent => sent.statement = id) post []) :
    p.Reads := by
  suffices hgen : ∀ (p : Prog S E A) (past : List (Sent S)),
      p.Follows (fun _ sent => sent.statement = id) post past → p.Reads from hgen p [] h
  intro p
  induction p with
  | ret a => exact fun _ _ _ => rfl
  | fail e => exact fun _ _ _ => rfl
  | step act next ih =>
      intro past h s
      have hact : act = id := (h s).1
      subst hact
      exact ih s _ (h s).2 s

/-- The loop rule with an invariant on what is left to do. -/
theorem follows_each_inv {C : Type w} (inv : List C → List (Sent S) → Prop) {cs : List C}
    {f : C → Prog S E PUnit} (hcs : inv cs past)
    (hf : ∀ c rest past', past <+: past' → inv (c :: rest) past' →
      (f c).Follows good (fun _ past'' => inv rest past'') past') :
    (each cs f).Follows good (fun _ past' => inv [] past') past := by
  induction cs generalizing past with
  | nil => exact hcs
  | cons c rest ih =>
      apply Follows.bind (hf c rest past (List.prefix_refl past) hcs)
      intro _ past' hpast hrest
      apply ih hrest
      exact fun c' rest' past'' hpast' => hf c' rest' past'' (hpast.trans hpast')

/-- The loop rule for loops that establish something for each element. -/
theorem follows_each_all {C : Type w} (done : C → List (Sent S) → Prop)
    (hmono : ∀ c past past', past <+: past' → done c past → done c past') {cs : List C}
    {f : C → Prog S E PUnit}
    (hf : ∀ c ∈ cs, ∀ past', past <+: past' → (f c).Follows good (fun _ => done c) past') :
    (each cs f).Follows good (fun _ past' => ∀ c ∈ cs, done c past') past := by
  induction cs generalizing past with
  | nil => exact fun c hc => absurd hc List.not_mem_nil
  | cons c rest ih =>
      apply Follows.bind (hf c List.mem_cons_self past (List.prefix_refl past))
      intro _ past' hpast hdone
      have hrest : (each rest f).Follows good (fun _ past'' => ∀ c' ∈ rest, done c' past'') past' :=
        ih fun c' hc' past'' hpast' =>
          hf c' (List.mem_cons_of_mem c hc') past'' (hpast.trans hpast')
      apply hrest.mono
      · exact fun _ _ _ h => h
      · intro _ past'' hpast' hall c' hc'
        rcases List.mem_cons.mp hc' with rfl | hc'
        · exact hmono c' past' past'' hpast' hdone
        · exact hall c' hc'

/-- What every statement of a program satisfies is known of all that it has
sent. -/
theorem Follows.since {ok : Sent S → Prop} {p : Prog S E A} (h : p.Follows good post past)
    (hok : ∀ past' sent, past <+: past' → good past' sent → ok sent) :
    p.Follows good
      (fun a past' => post a past' ∧ ∃ since, past' = past ++ since ∧ ∀ sent ∈ since, ok sent)
      past := by
  suffices hgen : ∀ start since, past = start ++ since → (∀ sent ∈ since, ok sent) →
      p.Follows good (fun a past' => post a past' ∧
        ∃ since, past' = start ++ since ∧ ∀ sent ∈ since, ok sent) past from
    hgen past [] (List.append_nil past).symm (by simp)
  induction p generalizing past with
  | ret a => exact fun start since hpast hsince => ⟨h, since, hpast, hsince⟩
  | fail e => exact fun _ _ _ _ => trivial
  | step act next ih =>
      intro start since hpast hsince s
      refine ⟨(h s).1, ih s (h s).2 ?_ start (since ++ [⟨act, s⟩]) ?_ ?_⟩
      · exact fun past' sent hpast' => hok past' sent ((List.prefix_append ..).trans hpast')
      · rw [hpast, List.append_assoc]
      · intro sent hsent
        rcases List.mem_append.mp hsent with hsent | hsent
        · exact hsince sent hsent
        · rw [List.mem_singleton.mp hsent]
          exact hok past _ (List.prefix_refl past) (h s).1

/-- Whatever states the program finds, the condition holds of its answer, as long
as there is none and once there is one, and what has been sent by then. -/
def Always (cond : Option (Except E A) → List (Sent S) → Prop) :
    Prog S E A → List (Sent S) → Prop
  | .ret a, past => cond (some (.ok a)) past
  | .fail e, past => cond (some (.error e)) past
  | .step act next, past => cond none past ∧ ∀ s, (next s).Always cond (past ++ [⟨act, s⟩])

variable {cond : Option (Except E A) → List (Sent S) → Prop}

theorem Always.now {p : Prog S E A} (h : p.Always cond past) : cond p.answer? past := by
  cases p with
  | ret a => exact h
  | fail e => exact h
  | step act next => exact h.1

/-- What the statements of a program keep holds all along. -/
theorem Follows.always (ok : List (Sent S) → Prop) {p : Prog S E A} (h : p.Follows good post past)
    (hkeep : ∀ past sent, good past sent → ok past → ok (past ++ [sent])) (hok : ok past)
    (hcond : ∀ answer past, ok past → cond answer past) : p.Always cond past := by
  induction p generalizing past with
  | ret a => exact hcond _ past hok
  | fail e => exact hcond _ past hok
  | step act next ih =>
      exact ⟨hcond _ past hok, fun s => ih s (h s).2 (hkeep past _ (h s).1 hok)⟩

/-- Sequencing after a part that keeps what the condition needs. -/
theorem Follows.always_bind {cond : Option (Except E B) → List (Sent S) → Prop}
    (ok : List (Sent S) → Prop) {p : Prog S E A} {f : A → Prog S E B}
    (h : p.Follows good post past)
    (hkeep : ∀ past sent, good past sent → ok past → ok (past ++ [sent])) (hok : ok past)
    (hcond : ∀ answer past, ok past → cond answer past)
    (hf : ∀ a past, ok past → post a past → (f a).Always cond past) :
    (p >>= f).Always cond past := by
  change (p.bind f).Always cond past
  induction p generalizing past with
  | ret a => exact hf a past hok h
  | fail e => exact hcond _ past hok
  | step act next ih =>
      exact ⟨hcond _ past hok, fun s => ih s (h s).2 (hkeep past _ (h s).1 hok)⟩

theorem always_ofExcept_bind {r : Except E A} {f : A → Prog S E B}
    {cond : Option (Except E B) → List (Sent S) → Prop}
    (herror : ∀ e, r = .error e → cond (some (.error e)) past)
    (hok : ∀ a, r = .ok a → (f a).Always cond past) : (ofExcept r >>= f).Always cond past := by
  cases r with
  | ok a => exact hok a rfl
  | error e => exact herror e rfl

theorem always_ensure_bind {c : Prop} [Decidable c] {e : E} {f : PUnit → Prog S E A}
    (herror : ¬ c → cond (some (.error e)) past) (hok : c → (f ⟨⟩).Always cond past) :
    (ensure c e >>= f).Always cond past := by
  unfold ensure
  split_ifs with hc
  · exact hok hc
  · exact herror hc

/-- Until the program returns, the condition holds of what it has sent. -/
abbrev Until (ok : List (Sent S) → Prop) (p : Prog S E A) (past : List (Sent S)) : Prop :=
  p.Always (fun answer past => (∀ a, answer ≠ some (.ok a)) → ok past) past

/-- Whatever is made of the returned value. -/
theorem Until.map {ok : List (Sent S) → Prop} {p : Prog S E A} (h : p.Until ok past) (g : A → B) :
    (p >>= fun a => pure (g a)).Until ok past := by
  change (p.bind fun a => pure (g a)).Always _ past
  induction p generalizing past with
  | ret a => exact fun hnot => absurd rfl (hnot (g a))
  | fail e => exact fun _ => h fun _ => by simp
  | step act next ih => exact ⟨fun _ => h.1 fun _ => by simp, fun s => ih s (h.2 s)⟩

theorem always_attempt_bind {f : S → Except E S} {act : S → S} {g : PUnit → Prog S E A}
    (hact : attempted f = act) (hrunning : cond none past)
    (herror : ∀ s e, f s = .error e → cond (some (.error e)) (past ++ [⟨act, s⟩]))
    (hok : ∀ s t, f s = .ok t → (g ⟨⟩).Always cond (past ++ [⟨act, s⟩])) :
    (attempt f >>= g).Always cond past := by
  subst hact
  refine ⟨hrunning, fun s => ?_⟩
  dsimp only
  cases hf : f s with
  | ok t => exact hok s t hf
  | error e => exact herror s e hf

end Prog

/-! ## The server -/

/-- One move of a schedule. -/
inductive Move (R : Type x) where
  | start (request : R)
  | exec (job : ℕ)
  deriving DecidableEq

/-- The request that a move brings in. -/
def Move.request? {R : Type x} : Move R → Option R
  | .start request => some request
  | .exec _ => none

/-- An executed statement with the job that sent it and the request of that
job. -/
structure Event (R : Type x) (S : Type u) extends Sent S where
  job : ℕ
  request : R

/-- What a job has sent, in order. -/
def sentBy {R : Type x} {S : Type u} (job : ℕ) (history : List (Event R S)) : List (Sent S) :=
  (history.filter (·.job = job)).map Event.toSent

/-- A shared state, the jobs with what is left of their programs, and what has
been executed. Finished jobs stay in the list and do nothing. -/
structure Server (R : Type x) (S : Type u) (E : Type v) (A : Type w) where
  state : S
  jobs : List (R × Prog S E A)
  history : List (Event R S)

namespace Server

variable {R : Type x} {S : Type u} {E : Type v} {A : Type w}

/-- A server without jobs. -/
def idle (s : S) : Server R S E A :=
  ⟨s, [], []⟩

/-- Start a job, or execute the next statement of one. -/
def step (handler : R → Prog S E A) : Move R → Server R S E A → Server R S E A
  | .start request, server =>
      { server with jobs := server.jobs ++ [(request, handler request)] }
  | .exec job, server =>
      match server.jobs[job]? with
      | some (request, .step act next) =>
          { state := act server.state
            jobs := server.jobs.set job (request, next server.state)
            history := server.history ++ [⟨⟨act, server.state⟩, job, request⟩] }
      | _ => server

/-- The request of a job. -/
def request? (server : Server R S E A) (job : ℕ) : Option R :=
  server.jobs[job]?.map Prod.fst

/-- The answer of a job, once there is one. -/
def answer? (server : Server R S E A) (job : ℕ) : Option (Except E A) :=
  (server.jobs[job]?).bind fun entry => entry.2.answer?

end Server

/-- Follow a schedule from a quiet state. -/
def serve {R : Type x} {S : Type u} {E : Type v} {A : Type w} (handler : R → Prog S E A)
    (moves : List (Move R)) (s : S) : Server R S E A :=
  runAll (Server.step handler) moves (.idle s)

/-! ## Interleavings -/

section Interleaving

variable {R : Type x} {S : Type u}

@[simp]
theorem sentBy_nil (job : ℕ) : sentBy job ([] : List (Event R S)) = [] := rfl

theorem sentBy_append (job : ℕ) (first second : List (Event R S)) :
    sentBy job (first ++ second) = sentBy job first ++ sentBy job second := by
  simp [sentBy]

theorem sentBy_snoc_self (history : List (Event R S)) (e : Event R S) :
    sentBy e.job (history ++ [e]) = sentBy e.job history ++ [e.toSent] := by
  simp [sentBy]

theorem sentBy_snoc_of_ne {job : ℕ} {history : List (Event R S)} {e : Event R S}
    (h : e.job ≠ job) : sentBy job (history ++ [e]) = sentBy job history := by
  simp [sentBy, h]

theorem mem_sentBy {job : ℕ} {history : List (Event R S)} {sent : Sent S} :
    sent ∈ sentBy job history ↔ ∃ e ∈ history, e.job = job ∧ e.toSent = sent := by
  simp [sentBy, and_assoc]

/-- Where an event lies in a history that has just grown by one. -/
theorem snoc_split {history pre post : List (Event R S)} {last e : Event R S}
    (h : history ++ [last] = pre ++ e :: post) :
    (history = pre ∧ last = e ∧ post = []) ∨
      ∃ between, post = between ++ [last] ∧ history = pre ++ e :: between := by
  rcases List.eq_nil_or_concat' post with rfl | ⟨between, last', rfl⟩
  · obtain ⟨hinit, hlast⟩ := List.append_inj' h rfl
    exact .inl ⟨hinit, List.singleton_inj.mp hlast, rfl⟩
  · rw [← List.cons_append, ← List.append_assoc] at h
    obtain ⟨hinit, hlast⟩ := List.append_inj' h rfl
    rw [List.singleton_inj] at hlast
    exact .inr ⟨between, by rw [hlast], hinit⟩

/-- Two places of a history are the same, or one comes first. -/
theorem split_order {history pre post pre' post' : List (Event R S)} {e e' : Event R S}
    (h : history = pre ++ e :: post) (h' : history = pre' ++ e' :: post') :
    (pre = pre' ∧ e = e') ∨ (∃ between, pre' = pre ++ e :: between) ∨
      ∃ between, pre = pre' ++ e' :: between := by
  rcases List.append_eq_append_iff.mp (h.symm.trans h') with ⟨between, hpre, htail⟩ |
    ⟨between, hpre, htail⟩
  · cases between with
    | nil => exact .inl ⟨by rw [hpre, List.append_nil], (List.cons.inj htail).1⟩
    | cons first between =>
        cases htail
        exact .inr (.inl ⟨between, hpre⟩)
  · cases between with
    | nil => exact .inl ⟨by rw [hpre, List.append_nil], (List.cons.inj htail).1.symm⟩
    | cons first between =>
        cases htail
        exact .inr (.inr ⟨between, hpre⟩)

/-- A job has sent more and more, so its events are told apart by how much. -/
theorem split_eq_of_length {history pre post pre' post' : List (Event R S)} {e e' : Event R S}
    (h : history = pre ++ e :: post) (h' : history = pre' ++ e' :: post') (hjob : e.job = e'.job)
    (hlength : (sentBy e.job pre).length = (sentBy e'.job pre').length) : pre = pre' ∧ e = e' := by
  rcases split_order h h' with hsame | ⟨between, rfl⟩ | ⟨between, rfl⟩
  · exact hsame
  · rw [← hjob] at hlength
    simp [sentBy] at hlength
  · rw [← hjob] at hlength
    simp [sentBy, hjob] at hlength

/-- Of two events of a history one comes first. -/
theorem split_cases {history pre post pre' post' : List (Event R S)} {e e' : Event R S}
    (h : history = pre ++ e :: post) (h' : history = pre' ++ e' :: post') (hne : e ≠ e') :
    (∃ between, pre' = pre ++ e :: between ∧ post = between ++ e' :: post') ∨
      ∃ between, pre = pre' ++ e' :: between ∧ post' = between ++ e :: post := by
  rcases List.append_eq_append_iff.mp (h.symm.trans h') with ⟨between, hpre, htail⟩ |
    ⟨between, hpre, htail⟩
  · cases between with
    | nil => exact absurd (List.cons.inj htail).1 hne
    | cons first between =>
        cases htail
        exact .inl ⟨between, hpre, rfl⟩
  · cases between with
    | nil => exact absurd (List.cons.inj htail).1.symm hne
    | cons first between =>
        cases htail
        exact .inr ⟨between, hpre, rfl⟩

theorem mem_or_mem_of_split {history pre post pre' post' : List (Event R S)} {e e' : Event R S}
    (h : history = pre ++ e :: post) (h' : history = pre' ++ e' :: post') (hne : e ≠ e') :
    e ∈ pre' ∨ e' ∈ pre := by
  rcases split_cases h h' hne with ⟨between, hpre, -⟩ | ⟨between, hpre, -⟩
  · exact .inl (by simp [hpre])
  · exact .inr (by simp [hpre])

/-- A property of each event and the history before it, by position. -/
theorem forall_split_iff {history : List (Event R S)}
    {p : List (Event R S) → Event R S → Prop} :
    (∀ pre e post, history = pre ++ e :: post → p pre e) ↔
      ∀ (n : ℕ) (hn : n < history.length), p (history.take n) (history.get ⟨n, hn⟩) := by
  constructor
  · intro h n hn
    apply h _ _ (history.drop (n + 1))
    rw [List.get_eq_getElem, List.getElem_cons_drop, List.take_append_drop]
  · rintro h pre e post rfl
    simpa using h pre.length (by simp)

/-- A statement that a job has sent, found in the history. -/
theorem exists_event {job : ℕ} {history : List (Event R S)} {past : List (Sent S)} {sent : Sent S}
    (h : past ++ [sent] <+: sentBy job history) :
    ∃ pre e post, history = pre ++ e :: post ∧ e.job = job ∧ e.toSent = sent ∧
      sentBy job pre = past := by
  induction history generalizing past with
  | nil => simp at h
  | cons e rest ih =>
      by_cases hjob : e.job = job
      · have hsent : sentBy job (e :: rest) = e.toSent :: sentBy job rest := by
          simp [sentBy, hjob]
        rw [hsent] at h
        cases past with
        | nil =>
            rw [List.nil_append, List.cons_prefix_cons] at h
            exact ⟨[], e, rest, rfl, hjob, h.1.symm, rfl⟩
        | cons first past =>
            rw [List.cons_append, List.cons_prefix_cons] at h
            obtain ⟨pre, found, post, rfl, hfound, hsame, hpre⟩ := ih h.2
            refine ⟨e :: pre, found, post, rfl, hfound, hsame, ?_⟩
            rw [← hpre, h.1]
            simp [sentBy, hjob]
      · have hsent : sentBy job (e :: rest) = sentBy job rest := by
          simp [sentBy, hjob]
        rw [hsent] at h
        obtain ⟨pre, found, post, rfl, hfound, hsame, hpre⟩ := ih h
        refine ⟨e :: pre, found, post, rfl, hfound, hsame, ?_⟩
        rw [← hpre]
        simp [sentBy, hjob]

/-- The first statement of a job, found in the history. -/
theorem exists_first_event {job : ℕ} {history : List (Event R S)} {sent : Sent S}
    (h : (sentBy job history).head? = some sent) :
    ∃ pre e post, history = pre ++ e :: post ∧ e.job = job ∧ e.toSent = sent ∧
      sentBy job pre = [] := by
  obtain ⟨rest, hrest⟩ := List.head?_eq_some_iff.mp h
  exact exists_event (by simp [hrest])

/-- The histories in which every statement meets the condition of its request,
given what its own job has sent before, and the states they lead to. -/
inductive Interleaving (good : R → List (Sent S) → Sent S → Prop) (s : S) :
    List (Event R S) → S → Prop
  | idle : Interleaving good s [] s
  | exec {history : List (Event R S)} {t : S} (e : Event R S)
      (hrun : Interleaving good s history t) (hbefore : e.before = t)
      (hown : ∀ other ∈ history, other.job = e.job → other.request = e.request)
      (hgood : good e.request (sentBy e.job history) e.toSent) :
      Interleaving good s (history ++ [e]) e.after

namespace Interleaving

variable {good : R → List (Sent S) → Sent S → Prop} {s t : S} {history : List (Event R S)}

/-- Every event of a history was executed at the end of the history before it. -/
theorem split (h : Interleaving good s history t) {pre post : List (Event R S)} {e : Event R S}
    (heq : history = pre ++ e :: post) :
    Interleaving good s pre e.before ∧ good e.request (sentBy e.job pre) e.toSent ∧
      ∀ other ∈ pre, other.job = e.job → other.request = e.request := by
  induction h generalizing post with
  | idle => simp at heq
  | @exec history t last hrun hbefore hown hgood ih =>
      rcases snoc_split heq with ⟨rfl, rfl, -⟩ | ⟨between, -, hsplit⟩
      · exact ⟨hbefore ▸ hrun, hgood, hown⟩
      · exact ih hsplit

/-- The events of a job carry one request. -/
theorem request_eq (h : Interleaving good s history t) {e e' : Event R S} (he : e ∈ history)
    (he' : e' ∈ history) (hjob : e.job = e'.job) : e.request = e'.request := by
  by_cases heq : e = e'
  · rw [heq]
  obtain ⟨pre, post, hsplit⟩ := List.append_of_mem he
  obtain ⟨pre', post', hsplit'⟩ := List.append_of_mem he'
  rcases mem_or_mem_of_split hsplit hsplit' heq with hmem | hmem
  · exact (h.split hsplit').2.2 e hmem hjob
  · exact ((h.split hsplit).2.2 e' hmem hjob.symm).symm

/-- What an event has established holds now, if no later one breaks it. -/
theorem kept_since (keep : S → Prop) (h : Interleaving good s history t)
    {pre post : List (Event R S)} {e : Event R S} (hsplit : history = pre ++ e :: post)
    (hstep : ∀ later ∈ post, keep later.before → keep later.after) (hafter : keep e.after) :
    keep t := by
  induction h generalizing post with
  | idle => simp at hsplit
  | @exec history t last hrun hbefore hown hgood ih =>
      subst hbefore
      rcases snoc_split hsplit with ⟨-, rfl, -⟩ | ⟨between, rfl, hinit⟩
      · exact hafter
      · apply hstep last (by simp)
        exact ih hinit fun later hlater => hstep later (List.mem_append_left _ hlater)

/-- What an event has found holds now, if neither it nor a later one breaks it. -/
theorem kept_from (keep : S → Prop) (h : Interleaving good s history t)
    {pre post : List (Event R S)} {e : Event R S} (hsplit : history = pre ++ e :: post)
    (hstep : ∀ later ∈ e :: post, keep later.before → keep later.after) (hbefore : keep e.before) :
    keep t := by
  apply h.kept_since keep hsplit
  · exact fun later hlater => hstep later (List.mem_cons_of_mem e hlater)
  · exact hstep e List.mem_cons_self hbefore

/-- A history leads to one state. -/
theorem unique {t' : S} (h : Interleaving good s history t) (h' : Interleaving good s history t') :
    t = t' := by
  have hlast : ∀ {u : S}, Interleaving good s history u →
      u = history.getLast?.elim s fun e => e.after := by
    intro u hu
    cases hu with
    | idle => rfl
    | exec e => simp
  rw [hlast h, hlast h']

/-- What holds at some time holds now, if no later event breaks it. -/
theorem kept_after (keep : S → Prop) {pre later : List (Event R S)} {u : S}
    (h : Interleaving good s (pre ++ later) t) (hpre : Interleaving good s pre u)
    (hstep : ∀ mid e post, later = mid ++ e :: post → keep e.before → keep e.after)
    (hu : keep u) : keep t := by
  cases later with
  | nil =>
      rw [List.append_nil] at h
      rwa [h.unique hpre]
  | cons first rest =>
      have hfirst : first.before = u := (h.split rfl).1.unique hpre
      refine h.kept_from keep rfl ?_ (hfirst ▸ hu)
      intro e he
      obtain ⟨mid, post, hsplit⟩ := List.append_of_mem he
      exact hstep mid e post hsplit

/-- Every event of a history meets its condition. -/
theorem good_of_mem (h : Interleaving good s history t) {e : Event R S} (he : e ∈ history) :
    ∃ past, good e.request past e.toSent := by
  obtain ⟨pre, post, hsplit⟩ := List.append_of_mem he
  exact ⟨_, (h.split hsplit).2.1⟩

/-- What holds now and did not hold at first was brought about by an event. -/
theorem established (p : S → Prop) (h : Interleaving good s history t) (hfirst : ¬ p s)
    (hnow : p t) :
    ∃ pre e post, history = pre ++ e :: post ∧ ¬ p e.before ∧ p e.after := by
  induction h with
  | idle => exact absurd hnow hfirst
  | @exec history t last hrun hbefore hown hgood ih =>
      subst hbefore
      by_cases hlast : p last.before
      · obtain ⟨pre, e, post, rfl, he⟩ := ih hlast
        exact ⟨pre, e, post ++ [last], by simp, he⟩
      · exact ⟨history, last, [], rfl, hlast, hnow⟩

/-- What every statement keeps holds now if it held after any of them. -/
theorem kept (keep : S → Prop) (h : Interleaving good s history t)
    (hstep : ∀ e ∈ history, keep e.before → keep e.after) {e : Event R S} (he : e ∈ history)
    (hafter : keep e.after) : keep t := by
  obtain ⟨pre, post, hsplit⟩ := List.append_of_mem he
  apply h.kept_since keep hsplit _ hafter
  intro later hlater
  apply hstep later
  rw [hsplit]
  simp [hlater]

/-- The invariant rule for runs whose events meet a condition. -/
theorem invariant {ok : Event R S → Prop} (inv : List (Event R S) → S → Prop) (hidle : inv [] s)
    (hexec : ∀ history (e : Event R S), Interleaving good s history e.before →
      (∀ other ∈ history ++ [e], ok other) →
      (∀ other ∈ history, other.job = e.job → other.request = e.request) →
      good e.request (sentBy e.job history) e.toSent → inv history e.before →
      inv (history ++ [e]) e.after)
    (h : Interleaving good s history t) (hok : ∀ e ∈ history, ok e) : inv history t := by
  induction h with
  | idle => exact hidle
  | @exec history t last hrun hbefore hown hgood ih =>
      subst hbefore
      apply hexec history last hrun hok hown hgood
      exact ih fun e he => hok e (List.mem_append_left _ he)

end Interleaving

end Interleaving

/-! ## Schedules are interleavings -/

namespace Server

variable {R : Type x} {S : Type u} {E : Type v} {A : Type w} {handler : R → Prog S E A}
  {good : R → List (Sent S) → Sent S → Prop} {post : R → A → List (Sent S) → Prop} {s : S}
  {server : Server R S E A}

/-- The history is an interleaving, its events belong to jobs of the server, and
what is left of a job follows what it has sent: everything, if that is nothing. -/
structure Sound (handler : R → Prog S E A) (good : R → List (Sent S) → Sent S → Prop)
    (post : R → A → List (Sent S) → Prop) (s : S) (server : Server R S E A) : Prop where
  run : Interleaving good s server.history server.state
  known : ∀ e ∈ server.history, ∃ p, server.jobs[e.job]? = some (e.request, p)
  follows : ∀ (job : ℕ) (request : R) (p : Prog S E A), server.jobs[job]? = some (request, p) →
    p.Follows (good request) (post request) (sentBy job server.history)
  fresh : ∀ (job : ℕ) (request : R) (p : Prog S E A), server.jobs[job]? = some (request, p) →
    sentBy job server.history = [] → p = handler request

/-- What an executing move does, if it does anything. -/
theorem step_exec_cases (handler : R → Prog S E A) (job : ℕ) (server : Server R S E A) :
    step handler (.exec job) server = server ∨
      ∃ request act next, server.jobs[job]? = some (request, .step act next) ∧
        step handler (.exec job) server =
          ⟨act server.state, server.jobs.set job (request, next server.state),
            server.history ++ [⟨⟨act, server.state⟩, job, request⟩]⟩ := by
  cases hjob : server.jobs[job]? with
  | none => exact .inl (by simp [step, hjob])
  | some entry =>
      obtain ⟨request, p⟩ := entry
      cases p with
      | ret a => exact .inl (by simp [step, hjob])
      | fail e => exact .inl (by simp [step, hjob])
      | step act next => exact .inr ⟨request, act, next, rfl, by simp [step, hjob]⟩

/-- The jobs after one has been started. -/
theorem jobs_start_cases {request request' : R} {job : ℕ} {p : Prog S E A}
    (h : (step handler (.start request) server).jobs[job]? = some (request', p)) :
    server.jobs[job]? = some (request', p) ∨
      (server.jobs.length ≤ job ∧ request' = request ∧ p = handler request) := by
  change (server.jobs ++ _)[job]? = _ at h
  by_cases hjob : job < server.jobs.length
  · rw [List.getElem?_append_left hjob] at h
    exact .inl h
  · rw [List.getElem?_append_right (by omega), List.getElem?_singleton] at h
    split_ifs at h
    cases h
    exact .inr ⟨by omega, rfl, rfl⟩

/-- The jobs after one of them has executed a statement. -/
theorem jobs_exec_cases {job job' : ℕ} {request request' : R} {q p : Prog S E A}
    (h : (server.jobs.set job (request, q))[job']? = some (request', p)) :
    (job ≠ job' ∧ server.jobs[job']? = some (request', p)) ∨
      (job = job' ∧ request' = request ∧ p = q) := by
  rw [List.getElem?_set] at h
  split_ifs at h with hsame
  · cases h
    exact .inr ⟨hsame, rfl, rfl⟩
  · exact .inl ⟨hsame, h⟩

/-- The events belong to jobs of the server, and what is left of a job follows
what it has sent. The state may be changed by others as well. -/
structure Attached (good : R → List (Sent S) → Sent S → Prop)
    (post : R → A → List (Sent S) → Prop) (server : Server R S E A) : Prop where
  known : ∀ e ∈ server.history, ∃ p, server.jobs[e.job]? = some (e.request, p)
  follows : ∀ (job : ℕ) (request : R) (p : Prog S E A), server.jobs[job]? = some (request, p) →
    p.Follows (good request) (post request) (sentBy job server.history)

theorem Sound.attached (h : server.Sound handler good post s) : server.Attached good post :=
  ⟨h.known, h.follows⟩

theorem attached_idle : (idle s : Server R S E A).Attached good post :=
  ⟨by simp [idle], by simp [idle]⟩

/-- What others do to the state does not concern the jobs. -/
theorem Attached.withState (h : server.Attached good post) (t : S) :
    Attached good post { server with state := t } :=
  ⟨h.known, h.follows⟩

theorem Attached.known_lt (h : server.Attached good post) {e : Event R S}
    (he : e ∈ server.history) : e.job < server.jobs.length := by
  obtain ⟨p, hp⟩ := h.known e he
  exact (List.getElem?_eq_some_iff.mp hp).1

/-- A job that has not been started has sent nothing. -/
theorem Attached.sentBy_eq_nil (h : server.Attached good post) {job : ℕ}
    (hjob : server.jobs.length ≤ job) : sentBy job server.history = [] := by
  rw [List.eq_nil_iff_forall_not_mem]
  intro sent hsent
  obtain ⟨e, he, hejob, -⟩ := mem_sentBy.mp hsent
  have := h.known_lt he
  omega

theorem Attached.start (hfollows : ∀ r, (handler r).Follows (good r) (post r) [])
    (h : server.Attached good post) (request : R) :
    (step handler (.start request) server).Attached good post where
  known e he := by
    obtain ⟨p, hp⟩ := h.known e he
    exact ⟨p, (List.getElem?_append_left (h.known_lt he)).trans hp⟩
  follows job request' p hp := by
    change p.Follows _ _ (sentBy job server.history)
    rcases jobs_start_cases hp with hp | ⟨hjob, rfl, rfl⟩
    · exact h.follows job request' p hp
    · rw [h.sentBy_eq_nil hjob]
      exact hfollows _

theorem Attached.exec (h : server.Attached good post) (job : ℕ) :
    (step handler (.exec job) server).Attached good post := by
  rcases step_exec_cases handler job server with heq | ⟨request, act, next, hjob, heq⟩
  · rwa [heq]
  obtain ⟨-, hnext⟩ := h.follows job request _ hjob server.state
  have hlt : job < server.jobs.length := (List.getElem?_eq_some_iff.mp hjob).1
  rw [heq]
  constructor
  · intro e he
    rcases List.mem_append.mp he with he | he
    · obtain ⟨p, hp⟩ := h.known e he
      rw [List.getElem?_set]
      split_ifs with hsame
      · rw [← hsame, hjob] at hp
        cases hp
        exact ⟨_, rfl⟩
      · exact ⟨p, hp⟩
    · rw [List.mem_singleton.mp he]
      exact ⟨_, by rw [List.getElem?_set_self hlt]⟩
  · intro job' request' p hp
    rcases jobs_exec_cases hp with ⟨hne, hp⟩ | ⟨rfl, rfl, rfl⟩
    · rw [sentBy_snoc_of_ne hne]
      exact h.follows job' request' p hp
    · exact (sentBy_snoc_self server.history ⟨⟨act, server.state⟩, job, request'⟩).symm ▸ hnext

theorem Attached.step (hfollows : ∀ r, (handler r).Follows (good r) (post r) [])
    (h : server.Attached good post) (move : Move R) :
    (Server.step handler move server).Attached good post := by
  cases move with
  | start request => exact h.start hfollows request
  | exec job => exact h.exec job

theorem Sound.start (hfollows : ∀ r, (handler r).Follows (good r) (post r) [])
    (h : server.Sound handler good post s) (request : R) :
    (step handler (.start request) server).Sound handler good post s where
  run := h.run
  known := (h.attached.start hfollows request).known
  follows := (h.attached.start hfollows request).follows
  fresh job request' p hp hnone := by
    rcases jobs_start_cases hp with hp | ⟨-, rfl, rfl⟩
    · exact h.fresh job request' p hp hnone
    · rfl

theorem Sound.exec (h : server.Sound handler good post s) (job : ℕ) :
    (step handler (.exec job) server).Sound handler good post s := by
  have hattached : (step handler (.exec job) server).Attached good post := h.attached.exec job
  refine ⟨?_, hattached.known, hattached.follows, ?_⟩
  · rcases step_exec_cases handler job server with heq | ⟨request, act, next, hjob, heq⟩
    · rw [heq]
      exact h.run
    · -- The other events of the job carry its request, since the job does.
      rw [heq]
      refine .exec ⟨⟨act, server.state⟩, job, request⟩ h.run rfl ?_
        (h.follows job request _ hjob server.state).1
      intro other hother hsame
      obtain ⟨p, hp⟩ := h.known other hother
      rw [hsame, hjob] at hp
      cases hp
      rfl
  · rcases step_exec_cases handler job server with heq | ⟨request, act, next, hjob, heq⟩
    · rw [heq]
      exact h.fresh
    · rw [heq]
      intro job' request' p hp hnone
      rcases jobs_exec_cases hp with ⟨hne, hp⟩ | ⟨rfl, -, -⟩
      · rw [sentBy_snoc_of_ne hne] at hnone
        exact h.fresh job' request' p hp hnone
      · rw [sentBy_snoc_self server.history ⟨⟨act, server.state⟩, job, request⟩] at hnone
        simp at hnone

theorem Sound.runAll (hfollows : ∀ r, (handler r).Follows (good r) (post r) [])
    (h : server.Sound handler good post s) (moves : List (Move R)) :
    (Math.runAll (step handler) moves server).Sound handler good post s := by
  induction moves generalizing server with
  | nil => exact h
  | cons move rest ih =>
      apply ih
      cases move with
      | start request => exact h.start hfollows request
      | exec job => exact h.exec job

theorem sound_idle : (idle s : Server R S E A).Sound handler good post s :=
  ⟨.idle, by simp [idle], by simp [idle], by simp [idle]⟩

/-- Every schedule of programs that follow a condition is an interleaving of
statements that meet it. -/
theorem sound_serve (hfollows : ∀ r, (handler r).Follows (good r) (post r) [])
    (moves : List (Move R)) (s : S) : (serve handler moves s).Sound handler good post s :=
  sound_idle.runAll hfollows moves

theorem request?_eq_some_iff {job : ℕ} {request : R} :
    server.request? job = some request ↔ ∃ p, server.jobs[job]? = some (request, p) := by
  rw [request?, Option.map_eq_some_iff]
  constructor
  · rintro ⟨⟨_, p⟩, hjob, rfl⟩
    exact ⟨p, hjob⟩
  · rintro ⟨p, hjob⟩
    exact ⟨_, hjob, rfl⟩

theorem jobs_of_answer? {job : ℕ} {request : R} {a : A}
    (hrequest : server.request? job = some request) (hanswer : server.answer? job = some (.ok a)) :
    server.jobs[job]? = some (request, .ret a) := by
  obtain ⟨p, hjob⟩ := request?_eq_some_iff.mp hrequest
  rw [answer?, hjob, Option.bind_some] at hanswer
  cases p with
  | ret b =>
      cases hanswer
      exact hjob
  | fail e => cases hanswer
  | step act next => cases hanswer

/-- A job that has returned has established what its program promises. -/
theorem Sound.returned (h : server.Sound handler good post s) {job : ℕ} {request : R} {a : A}
    (hrequest : server.request? job = some request) (hanswer : server.answer? job = some (.ok a)) :
    post request a (sentBy job server.history) :=
  h.follows job request _ (jobs_of_answer? hrequest hanswer)

/-- What is left of the jobs keeps to what they always keep to. -/
theorem Sound.always_runAll {cond : R → Option (Except E A) → List (Sent S) → Prop}
    (hfollows : ∀ r, (handler r).Follows (good r) (post r) [])
    (halways : ∀ r, (handler r).Always (cond r) []) (h : server.Sound handler good post s)
    (hjobs : ∀ (job : ℕ) (request : R) (p : Prog S E A), server.jobs[job]? = some (request, p) →
      p.Always (cond request) (sentBy job server.history)) (moves : List (Move R)) (job : ℕ)
    (request : R) (p : Prog S E A)
    (hjob : (Math.runAll (step handler) moves server).jobs[job]? = some (request, p)) :
    p.Always (cond request) (sentBy job (Math.runAll (step handler) moves server).history) := by
  induction moves generalizing server with
  | nil => exact hjobs job request p hjob
  | cons move rest ih =>
      cases move with
      | start request' =>
          apply ih (h.start hfollows request') _ hjob
          intro job' request'' p' hp'
          change p'.Always _ (sentBy job' server.history)
          rcases jobs_start_cases hp' with hp' | ⟨hnew, rfl, rfl⟩
          · exact hjobs job' request'' p' hp'
          · rw [h.attached.sentBy_eq_nil hnew]
            exact halways _
      | exec turn =>
          apply ih (h.exec turn) _ hjob
          rcases step_exec_cases handler turn server with heq | ⟨own, act, next, hturn, heq⟩
          · rwa [heq]
          rw [heq]
          intro job' request'' p' hp'
          rcases jobs_exec_cases hp' with ⟨hne, hp'⟩ | ⟨rfl, rfl, rfl⟩
          · rw [sentBy_snoc_of_ne hne]
            exact hjobs job' request'' p' hp'
          · exact (sentBy_snoc_self server.history ⟨⟨act, server.state⟩, turn, request''⟩).symm ▸
              (hjobs turn request'' _ hturn).2 server.state

/-- What holds of the answer of a job and what it has sent. -/
theorem always_serve {cond : R → Option (Except E A) → List (Sent S) → Prop}
    (hfollows : ∀ r, (handler r).Follows (good r) (post r) [])
    (halways : ∀ r, (handler r).Always (cond r) []) (moves : List (Move R)) (s : S) {job : ℕ}
    {request : R} (hrequest : (serve handler moves s).request? job = some request) :
    cond request ((serve handler moves s).answer? job)
      (sentBy job (serve handler moves s).history) := by
  obtain ⟨p, hjob⟩ := request?_eq_some_iff.mp hrequest
  rw [answer?, hjob, Option.bind_some]
  exact (sound_idle.always_runAll hfollows halways (by simp [idle]) moves job request p hjob).now

/-- The events of a job carry its request. -/
theorem Sound.request?_eq (h : server.Sound handler good post s) {e : Event R S}
    (he : e ∈ server.history) : server.request? e.job = some e.request :=
  request?_eq_some_iff.mpr (h.known e he)

/-- A job that has sent nothing cannot have answered, if its program starts with
a statement. -/
theorem Sound.sentBy_ne_nil (h : server.Sound handler good post s) {job : ℕ} {request : R}
    (hrequest : server.request? job = some request) (hanswer : server.answer? job ≠ none)
    (hstep : (handler request).answer? = none) : sentBy job server.history ≠ [] := by
  intro hnothing
  obtain ⟨p, hjob⟩ := request?_eq_some_iff.mp hrequest
  apply hanswer
  rw [answer?, hjob, Option.bind_some, h.fresh job request p hjob hnothing]
  exact hstep

/-! ## Longer schedules -/

/-- What every statement keeps holds in the states that follow. -/
theorem Sound.kept_runAll (keep : S → Prop)
    (hfollows : ∀ r, (handler r).Follows (good r) (post r) [])
    (hstep : ∀ request past sent, good request past sent → keep sent.before → keep sent.after)
    (h : server.Sound handler good post s) (hkeep : keep server.state) (moves : List (Move R)) :
    keep (Math.runAll (step handler) moves server).state := by
  induction moves generalizing server with
  | nil => exact hkeep
  | cons move rest ih =>
      cases move with
      | start request => exact ih (h.start hfollows request) hkeep
      | exec job =>
          apply ih (h.exec job)
          rcases step_exec_cases handler job server with heq | ⟨request, act, next, hjob, heq⟩
          · rwa [heq]
          · rw [heq]
            exact hstep request _ ⟨act, server.state⟩
              (h.follows job request _ hjob server.state).1 hkeep

/-- What has been executed is not undone. -/
theorem history_runAll (handler : R → Prog S E A) (moves : List (Move R))
    (server : Server R S E A) :
    server.history <+: (Math.runAll (step handler) moves server).history := by
  induction moves generalizing server with
  | nil => exact List.prefix_refl _
  | cons move rest ih =>
      refine List.IsPrefix.trans ?_ (ih (step handler move server))
      cases move with
      | start request => exact List.prefix_refl _
      | exec job =>
          rcases step_exec_cases handler job server with heq | ⟨request, act, next, hjob, heq⟩
          · simp only [heq, List.prefix_refl]
          · rw [heq]
            exact List.prefix_append _ _

/-- What holds after some moves holds after more of them, if no event in between breaks
it. -/
theorem kept_serve (keep : S → Prop) (hfollows : ∀ r, (handler r).Follows (good r) (post r) [])
    {first rest : List (Move R)} {s : S}
    (hstep : ∀ mid e later, (serve handler (first ++ rest) s).history = mid ++ e :: later →
      (serve handler first s).history <+: mid → keep e.before → keep e.after)
    (hkeep : keep (serve handler first s).state) :
    keep (serve handler (first ++ rest) s).state := by
  have hprefix : (serve handler first s).history <+: (serve handler (first ++ rest) s).history := by
    rw [serve, serve, runAll_append]
    exact history_runAll handler rest _
  obtain ⟨later, hlater⟩ := hprefix
  have hrun := (sound_serve hfollows (first ++ rest) s).run
  rw [← hlater] at hrun
  refine hrun.kept_after keep (sound_serve hfollows first s).run ?_ hkeep
  intro mid e more hsplit
  refine hstep ((serve handler first s).history ++ mid) e more ?_ (List.prefix_append _ _)
  rw [← hlater, hsplit, List.append_assoc]

/-- The jobs of a server are the requests that were started, in order. -/
theorem jobs_runAll (handler : R → Prog S E A) (moves : List (Move R))
    (server : Server R S E A) :
    (Math.runAll (step handler) moves server).jobs.map Prod.fst =
      server.jobs.map Prod.fst ++ moves.filterMap Move.request? := by
  induction moves generalizing server with
  | nil => simp [Math.runAll]
  | cons move rest ih =>
      rw [Math.runAll, ih]
      cases move with
      | start request => simp [step, Move.request?]
      | exec job =>
          rcases step_exec_cases handler job server with heq | ⟨request, act, next, hjob, heq⟩
          · rw [heq]
            rfl
          · have hrequest : (server.jobs.map Prod.fst)[job]? = some request := by
              rw [List.getElem?_map, hjob]
              rfl
            rw [heq, List.map_set, List.filterMap_cons]
            obtain ⟨hlt, hget⟩ := List.getElem?_eq_some_iff.mp hrequest
            rw [← hget, List.set_getElem_self]
            rfl

theorem request?_serve (handler : R → Prog S E A) (moves : List (Move R)) (s : S) (job : ℕ) :
    (serve handler moves s).request? job = (moves.filterMap Move.request?)[job]? := by
  rw [request?, ← List.getElem?_map, serve, jobs_runAll]
  rfl

/-! ## Requests that run alone -/

/-- A job whose statements are executed one after the other ends as its program
does. -/
theorem exists_finish (handler : R → Prog S E A) {request : R} {p : Prog S E A} {job : ℕ}
    {server : Server R S E A} (hjob : server.jobs[job]? = some (request, p)) :
    ∃ moves q events, Math.runAll (step handler) moves server =
        ⟨(p.run server.state).2, server.jobs.set job (request, q), server.history ++ events⟩ ∧
      q.answer? = some (p.run server.state).1 ∧ ∀ e ∈ events, e.request = request := by
  have hlt : job < server.jobs.length := (List.getElem?_eq_some_iff.mp hjob).1
  have hself : server.jobs.set job (request, p) = server.jobs := by
    rw [← (List.getElem?_eq_some_iff.mp hjob).2, List.set_getElem_self]
  induction p generalizing server with
  | ret a => exact ⟨[], .ret a, [], by rw [hself]; simp [Math.runAll], rfl, by simp⟩
  | fail e => exact ⟨[], .fail e, [], by rw [hself]; simp [Math.runAll], rfl, by simp⟩
  | step act next ih =>
      have hstep : step handler (.exec job) server = ⟨act server.state,
          server.jobs.set job (request, next server.state),
          server.history ++ [⟨⟨act, server.state⟩, job, request⟩]⟩ := by
        simp [step, hjob]
      have hnext : (step handler (.exec job) server).jobs[job]? =
          some (request, next server.state) := by
        rw [hstep]
        exact List.getElem?_set_self hlt
      obtain ⟨moves, q, events, hrun, hanswer, hevents⟩ :=
        ih server.state hnext (by rw [hstep]; simpa using hlt) (by rw [hstep]; simp)
      rw [hstep] at hrun hanswer
      refine ⟨.exec job :: moves, q, ⟨⟨act, server.state⟩, job, request⟩ :: events, ?_, hanswer, ?_⟩
      · rw [Math.runAll, hstep, hrun]
        simp [Prog.run]
      · intro e he
        rcases List.mem_cons.mp he with rfl | he
        · rfl
        · exact hevents e he

/-- A request that comes in and runs alone is answered as its program says. -/
theorem exists_alone (handler : R → Prog S E A) (moves : List (Move R)) (s : S) (request : R) :
    ∃ more q events, serve handler (moves ++ more) s =
        ⟨((handler request).run (serve handler moves s).state).2,
          (serve handler moves s).jobs ++ [(request, q)],
          (serve handler moves s).history ++ events⟩ ∧
      q.answer? = some ((handler request).run (serve handler moves s).state).1 ∧
      ∀ e ∈ events, e.request = request := by
  have hjob : (step handler (.start request) (serve handler moves s)).jobs[
      (serve handler moves s).jobs.length]? = some (request, handler request) := by
    simp [step]
  obtain ⟨more, q, events, hrun, hanswer, hevents⟩ := exists_finish handler hjob
  refine ⟨.start request :: more, q, events, ?_, hanswer, hevents⟩
  rw [serve, runAll_append, Math.runAll]
  refine hrun.trans ?_
  simp [step]

end Server

end Voxply.Math
