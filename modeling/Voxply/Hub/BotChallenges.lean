/-
# Bot challenges

Before it may log in, a key has to show that it is not a bot: by a click, by a sum that is
drawn as a picture, or by both.  A challenge is a row that is marked as consumed when it is
met, and it leads to a challenge token or to a second challenge.  The token is a row that a
login marks as consumed.

Both rows are read, checked and then marked by a statement that does not look at them
again.  As long as every such statement finds its row as it was checked, a challenge leads
to one thing, a token lets one login pass, and no key gets more tokens than it has solved
puzzles.  Two submissions of one answer at the same time get two tokens.
-/

import Mathlib.Data.Finset.Card
import Mathlib.Data.Finset.Insert
import Voxply.Hub.CanonicalIdentity
import Voxply.Hub.LoginWrites
import Voxply.Math.Commit

namespace Voxply.Hub

open Voxply.Math Voxply.Identity

/-! ## Requests and answers -/

structure ChallengePrompt where
  id : String
  mode : String
  promptSvg : Option String
  expiresAt : Int
  deriving DecidableEq

structure ChallengeVerifyResponse where
  ok : Bool
  token : Option String := none
  expiresAt : Option Int := none
  nextChallenge : Option ChallengePrompt := none
  attemptsRemaining : Option ℕ := none
  deriving DecidableEq

structure VerifyChallengeRequest where
  id : String
  pubkey : String
  answer : Option String
  deriving DecidableEq

/-- What the surroundings supply: the clock, a fresh identifier, the random bytes of a
token and the random choices of the numbers of a puzzle, for either difficulty. -/
structure BotChallengeEnv where
  now : Int
  id : String
  tokenBytes : List UInt8
  easy : Fin 9 × Fin 9
  medium : Fin 41 × Fin 41
  deriving DecidableEq

/-! ## Handlers -/

def Db.challengeDifficulty (db : Db) : String :=
  (db.setting "challenge_difficulty").getD "easy"

/-- `sha256_hex`. -/
def sha256Hex (lib : Crates) (input : String) : String :=
  hexEncode (lib.sha256 (asBytes input))

/-- The numbers that a puzzle adds. -/
def puzzleNumbers (env : BotChallengeEnv) (difficulty : String) : ℕ × ℕ :=
  if difficulty = "medium" then (10 + env.medium.1, 10 + env.medium.2)
  else (1 + env.easy.1, 1 + env.easy.2)

/-- `make_puzzle_svg`: the picture and the answer. -/
def makePuzzleSvg (env : BotChallengeEnv) (difficulty : String) : String × String :=
  let (a, b) := puzzleNumbers env difficulty
  ("<svg xmlns='http://www.w3.org/2000/svg' width='200' height='80'>" ++
    "<rect width='200' height='80' fill='#1a1a2e'/>" ++
    "<line x1='0' y1='30' x2='200' y2='35' stroke='#333' stroke-width='1'/>" ++
    "<line x1='10' y1='60' x2='190' y2='55' stroke='#2a2a4e' stroke-width='1'/>" ++
    "<text x='20' y='52' font-size='26' fill='#e0e0ff' font-family='monospace' " ++
    "transform='rotate(-5,20,52)'>" ++ toString a ++ "</text>" ++
    "<text x='72' y='55' font-size='26' fill='#e0e0ff' font-family='monospace'>+</text>" ++
    "<text x='100' y='50' font-size='26' fill='#e0e0ff' font-family='monospace' " ++
    "transform='rotate(3,100,50)'>" ++ toString b ++ "</text>" ++
    "<text x='145' y='53' font-size='26' fill='#c0c0ff' font-family='monospace'>=?</text>" ++
    "</svg>", toString (a + b))

/-- `INSERT INTO bot_challenges`. -/
def insertBotChallenge (row : BotChallengeRow) (db : Db) : Except SqlError Db :=
  match db.botChallenges.insert? row with
  | none => .error (.primaryKey "bot_challenges.id")
  | some botChallenges => .ok { db with botChallenges := botChallenges }

/-- `UPDATE bot_challenges SET consumed_at = ? WHERE id = ?`. -/
def consumeBotChallenge (id : String) (now : Int) (db : Db) : Db :=
  { db with
    botChallenges := db.botChallenges.update (·.id = id)
      (fun row => { row with consumedAt := some now }) fun _ => rfl }

/-- `INSERT INTO challenge_tokens`. -/
def insertChallengeToken (row : ChallengeTokenRow) (db : Db) : Except SqlError Db :=
  match db.challengeTokens.insert? row with
  | none => .error (.primaryKey "challenge_tokens.token")
  | some challengeTokens => .ok { db with challengeTokens := challengeTokens }

/-- The token that is issued to a key. -/
def newChallengeToken (env : BotChallengeEnv) (pubkey : String) : ChallengeTokenRow where
  token := hexEncode env.tokenBytes
  pubkey := pubkey
  issuedAt := env.now
  expiresAt := env.now + 300
  consumedAt := none

/-- `issue_challenge_token`. -/
def issueChallengeToken (env : BotChallengeEnv) (pubkey : String) : Handler (String × Int) := do
  execute (insertChallengeToken (newChallengeToken env pubkey))
  pure (hexEncode env.tokenBytes, env.now + 300)

/-- A challenge of some kind for a key. -/
def newBotChallenge (env : BotChallengeEnv) (pubkey : String) (kind : ChallengeKind)
    (expectedAnswer : Option String) : BotChallengeRow where
  id := env.id
  pubkey := pubkey
  kind := kind
  expectedAnswer := expectedAnswer
  createdAt := env.now
  expiresAt := env.now + 300

/-- What a challenge asks in each mode: its kind, the hash of the answer and the picture.
In the mode `both` the puzzle comes after the click. -/
def challengeOfMode (lib : Crates) (env : BotChallengeEnv) (mode difficulty : String) :
    ChallengeKind × Option String × Option String :=
  if mode = "puzzle" then
    let (svg, answer) := makePuzzleSvg env difficulty
    (.puzzle, some (sha256Hex lib answer), some svg)
  else (.click, none, none)

def newChallenge (lib : Crates) (env : BotChallengeEnv) (pubkey : String) :
    Handler ChallengePrompt := do
  let challengeMode ← fetch (·.challengeMode)
  .ensure (challengeMode ≠ "off") ⟨.notFound, "Challenges are disabled"⟩
  let difficulty ← fetch (·.challengeDifficulty)
  let (kind, expectedAnswer, promptSvg) := challengeOfMode lib env challengeMode difficulty
  execute (insertBotChallenge (newBotChallenge env pubkey kind expectedAnswer))
  pure ⟨env.id, challengeMode, promptSvg, env.now + 300⟩

/-- The checks of `verify_challenge` on the stored challenge. -/
def checkBotChallenge (now : Int) (pubkey : String) (row : Option BotChallengeRow) :
    Except ApiError BotChallengeRow :=
  match row with
  | none => .error ⟨.notFound, "Challenge not found"⟩
  | some row =>
      if row.consumedAt.isSome then .error ⟨.gone, "Challenge already consumed"⟩
      else if now > row.expiresAt then .error ⟨.gone, "Challenge expired"⟩
      else if row.pubkey ≠ pubkey then .error ⟨.forbidden, "Pubkey mismatch"⟩
      else .ok row

/-- A puzzle that has not been solved may be tried again. -/
def tryAgain : ChallengeVerifyResponse where
  ok := false
  attemptsRemaining := some 2

/-- The end of `verify_challenge`: a token for a challenge that has been met. -/
def answerWithToken (env : BotChallengeEnv) (pubkey : String) :
    Handler ChallengeVerifyResponse := do
  let (token, expiresAt) ← issueChallengeToken env pubkey
  pure { ok := true, token := some token, expiresAt := some expiresAt }

def verifyChallenge (lib : Crates) (env : BotChallengeEnv) (req : VerifyChallengeRequest) :
    Handler ChallengeVerifyResponse := do
  let row ← fetch (·.botChallenges.find? req.id)
  let row ← .ofExcept (checkBotChallenge env.now req.pubkey row)
  let challengeMode ← fetch (·.challengeMode)
  let difficulty ← fetch (·.challengeDifficulty)
  match row.kind with
  | .click => do
      write (consumeBotChallenge req.id env.now)
      if challengeMode = "both" then do
        let (svg, answer) := makePuzzleSvg env difficulty
        execute (insertBotChallenge
          (newBotChallenge env req.pubkey .puzzle (some (sha256Hex lib answer))))
        pure
          { ok := true, nextChallenge := some ⟨env.id, "both", some svg, env.now + 300⟩ }
      else answerWithToken env req.pubkey
  | .puzzle =>
      match req.answer with
      | none => pure tryAgain
      | some answer =>
          match row.expectedAnswer with
          | none => .fail ⟨.internalServerError, "Missing expected answer"⟩
          | some expected =>
              if sha256Hex lib (trim answer) ≠ expected then pure tryAgain
              else do
                write (consumeBotChallenge req.id env.now)
                answerWithToken env req.pubkey
  | .unknown _ => .fail ⟨.internalServerError, "Unknown challenge kind"⟩

/-! ## Runs -/

inductive GateRequest where
  | newChallenge (env : BotChallengeEnv) (pubkey : String)
  | verifyChallenge (env : BotChallengeEnv) (req : VerifyChallengeRequest)
  | verify (env : LoginEnv) (req : VerifyRequest)
  deriving DecidableEq

inductive GateAnswer where
  | prompt (prompt : ChallengePrompt)
  | checked (response : ChallengeVerifyResponse)
  | opened (response : VerifyResponse)
  deriving DecidableEq

namespace GateRequest

def handler (lib : Crates) : GateRequest → Handler GateAnswer
  | .newChallenge env pubkey => do
      let prompt ← Hub.newChallenge lib env pubkey
      pure (.prompt prompt)
  | .verifyChallenge env req => do
      let response ← Hub.verifyChallenge lib env req
      pure (.checked response)
  | .verify env req => do
      let response ← Hub.verify lib env req
      pure (.opened response)

/-- The challenge token that the next statement consumes. -/
def consumes? (lib : Crates) : GateRequest → List (Sent AppState) → Option String
  | .verify env req, past => (verifyToChallenge lib env req).found? past
  | .newChallenge _ _, _ => none
  | .verifyChallenge _ _, _ => none

/-- The challenge that the next statement consumes: it has been read, and so have the
settings. -/
def meets? : GateRequest → List (Sent AppState) → Option String
  | .verifyChallenge _ req, past => if past.length = 3 then some req.id else none
  | .newChallenge _ _, _ => none
  | .verify _ _, _ => none

/-- The puzzle of a key that a request solves in time, in the given store. -/
def solves? (lib : Crates) (pubkey : String) : GateRequest → Db → Option String
  | .verifyChallenge env req, db =>
      match checkBotChallenge env.now req.pubkey (db.botChallenges.find? req.id) with
      | .error _ => none
      | .ok row =>
          if req.pubkey = pubkey ∧ row.kind = .puzzle ∧
              req.answer.any (fun answer => row.expectedAnswer = some (sha256Hex lib (trim answer)))
          then some req.id else none
  | .newChallenge _ _, _ => none
  | .verify _ _, _ => none

end GateRequest

abbrev GateEvent := Event GateRequest AppState

/-- Follow a schedule of challenges and logins. -/
def gateRun (lib : Crates) (moves : List (Move GateRequest)) (s : AppState) :
    Server GateRequest AppState ApiError GateAnswer :=
  serve (GateRequest.handler lib) moves s

/-! ## What is to hold -/

/-- The number of tokens that were issued to a key. -/
def Db.tokensOf (db : Db) (pubkey : String) : ℕ :=
  (db.challengeTokens.rows.filter (·.pubkey = pubkey)).length

/-- The puzzles of a key that were solved in time. -/
def solved (lib : Crates) (pubkey : String) (history : List GateEvent) : Finset String :=
  (history.filterMap fun e => e.request.solves? lib pubkey e.before.db).toFinset

/-- A login has passed the gate with this token. -/
def PassedGate (lib : Crates) (token : String)
    (server : Server GateRequest AppState ApiError GateAnswer) (job : ℕ) : Prop :=
  ∃ request, server.request? job = some request ∧
    Committed (fun request past => request.consumes? lib past = some token) request
      (sentBy job server.history)

/-- A challenge has led to something. -/
def Yielded (id : String) (server : Server GateRequest AppState ApiError GateAnswer) (job : ℕ) :
    Prop :=
  ∃ env req response, server.request? job = some (.verifyChallenge env req) ∧ req.id = id ∧
    server.answer? job = some (.ok (.checked response)) ∧ response.ok = true

structure GateRight (lib : Crates) (s : AppState)
    (server : Server GateRequest AppState ApiError GateAnswer) : Prop where
  tokens : ∀ pubkey, server.state.db.tokensOf pubkey ≤
    s.db.tokensOf pubkey + (solved lib pubkey server.history).card
  challenges : ∀ id job job', Yielded id server job → Yielded id server job' → job = job'
  logins : ∀ token job job', PassedGate lib token server job →
    PassedGate lib token server job' → job = job'

/-- A row is consumed that is not consumed yet, and a click only leads on to a puzzle. -/
def ConsumesRight (lib : Crates) (history : List GateEvent) : Prop :=
  ∀ pre e post, history = pre ++ e :: post →
    (∀ token ∈ e.request.consumes? lib (sentBy e.job pre),
      ∃ row ∈ e.before.db.challengeTokens.find? token, row.consumedAt = none) ∧
    ∀ id ∈ e.request.meets? (sentBy e.job pre),
      (∃ row ∈ e.before.db.botChallenges.find? id, row.consumedAt = none) ∧
      ∀ read ∈ (sentBy e.job pre)[0]?, ∀ row ∈ read.before.db.botChallenges.find? id,
        row.kind = .click → ∀ mode ∈ (sentBy e.job pre)[1]?, mode.before.db.challengeMode = "both"

/-! ## Statements -/

section Statements

variable {lib : Crates} {past : List (Sent AppState)} {sent : Sent AppState}

/-- A request has solved a puzzle, or it has clicked where nothing else was asked. -/
def Met (lib : Crates) (env : BotChallengeEnv) (req : VerifyChallengeRequest)
    (past : List (Sent AppState)) : Prop :=
  ∃ read, past[0]? = some read ∧
    (GateRequest.solves? lib req.pubkey (.verifyChallenge env req) read.before.db = some req.id ∨
      (∃ row, read.before.db.botChallenges.find? req.id = some row ∧ row.kind = .click) ∧
        ∃ mode, past[1]? = some mode ∧ mode.before.db.challengeMode ≠ "both")

/-- What the requests send. -/
inductive GateSent (lib : Crates) : GateRequest → List (Sent AppState) → Sent AppState → Prop
  | aside {request : GateRequest} {past : List (Sent AppState)} {sent : Sent AppState}
      (hconsumes : request.consumes? lib past = none)
      (hlength : ∀ env req, request = .verifyChallenge env req → past.length < 3)
      (hchallenges : sent.after.db.botChallenges = sent.before.db.botChallenges)
      (htokens : sent.after.db.challengeTokens = sent.before.db.challengeTokens) :
      GateSent lib request past sent
  | consume {env : LoginEnv} {req : VerifyRequest} {past : List (Sent AppState)}
      {sent : Sent AppState} {token : String}
      (hconsumes : GateRequest.consumes? lib (.verify env req) past = some token)
      (h : sent.statement = written (consumeChallengeToken token env.now)) :
      GateSent lib (.verify env req) past sent
  | create {env : BotChallengeEnv} {pubkey : String} {past : List (Sent AppState)}
      {sent : Sent AppState} (row : BotChallengeRow)
      (h : sent.statement = executed (insertBotChallenge row)) :
      GateSent lib (.newChallenge env pubkey) past sent
  | meet {env : BotChallengeEnv} {req : VerifyChallengeRequest} {past : List (Sent AppState)}
      {sent : Sent AppState} (hlength : past.length = 3)
      (h : sent.statement = written (consumeBotChallenge req.id env.now)) :
      GateSent lib (.verifyChallenge env req) past sent
  | leadOn {env : BotChallengeEnv} {req : VerifyChallengeRequest} {past : List (Sent AppState)}
      {sent : Sent AppState} (row : BotChallengeRow) (hlength : past.length = 4)
      (h : sent.statement = executed (insertBotChallenge row)) :
      GateSent lib (.verifyChallenge env req) past sent
  | issue {env : BotChallengeEnv} {req : VerifyChallengeRequest} {past : List (Sent AppState)}
      {sent : Sent AppState} (hlength : past.length = 4) (hmet : Met lib env req past)
      (h : sent.statement = executed (insertChallengeToken (newChallengeToken env req.pubkey))) :
      GateSent lib (.verifyChallenge env req) past sent

/-- Whoever is told that a challenge was met has consumed it. -/
def GateRequest.Told (request : GateRequest) (answer : GateAnswer) (past : List (Sent AppState)) :
    Prop :=
  ∀ env req response, request = .verifyChallenge env req → answer = .checked response →
    response.ok = true → 3 < past.length

theorem newChallenge_follows {env : BotChallengeEnv} {pubkey : String} :
    (newChallenge lib env pubkey).Follows (GateSent lib (.newChallenge env pubkey))
      (fun _ _ => True) [] := by
  have hread : ∀ past s, GateSent lib (.newChallenge env pubkey) past ⟨id, s⟩ :=
    fun _ _ => .aside rfl (by simp) rfl rfl
  apply follows_fetch_bind (hread _)
  intro s
  apply Prog.follows_ensure_bind
  intro _
  apply follows_fetch_bind (hread _)
  intro t
  apply follows_execute_bind
  · exact fun u => .create _ rfl
  · exact fun _ _ _ => trivial

theorem answerWithToken_follows {env : BotChallengeEnv} {req : VerifyChallengeRequest}
    (hlength : past.length = 4) (hmet : Met lib env req past) :
    (answerWithToken env req.pubkey).Follows (GateSent lib (.verifyChallenge env req))
      (fun response past => response.ok = true → 3 < past.length) past := by
  have hissue : (issueChallengeToken env req.pubkey).Follows
      (GateSent lib (.verifyChallenge env req)) (fun _ past => 3 < past.length) past := by
    apply follows_execute_bind
    · exact fun s => .issue hlength hmet rfl
    · intro s db _
      apply Prog.follows_ret
      simp [hlength]
  exact hissue.bind fun _ _ _ h => Prog.follows_ret fun _ => h

/-- What an accepted challenge looks like. -/
theorem checkBotChallenge_ok {now : Int} {pubkey : String} {found : Option BotChallengeRow}
    {row : BotChallengeRow} (h : checkBotChallenge now pubkey found = .ok row) :
    found = some row := by
  unfold checkBotChallenge at h
  cases found with
  | none => cases h
  | some other =>
      dsimp only at h
      split_ifs at h
      cases h
      rfl

theorem solves?_of_answer {env : BotChallengeEnv} {req : VerifyChallengeRequest} {db : Db}
    {row : BotChallengeRow} {answer : String}
    (hrow : checkBotChallenge env.now req.pubkey (db.botChallenges.find? req.id) = .ok row)
    (hkind : row.kind = .puzzle) (hanswer : req.answer = some answer)
    (hright : row.expectedAnswer = some (sha256Hex lib (trim answer))) :
    GateRequest.solves? lib req.pubkey (.verifyChallenge env req) db = some req.id := by
  rw [GateRequest.solves?, hrow]
  dsimp only
  rw [if_pos ⟨rfl, hkind, by rw [hanswer, Option.any_some, decide_eq_true hright]⟩]

theorem verifyChallenge_follows {env : BotChallengeEnv} {req : VerifyChallengeRequest} :
    (verifyChallenge lib env req).Follows (GateSent lib (.verifyChallenge env req))
      (fun response past => response.ok = true → 3 < past.length) [] := by
  have hread : ∀ past s, past.length < 3 → GateSent lib (.verifyChallenge env req) past ⟨id, s⟩ :=
    fun _ _ hlength => .aside rfl (fun _ _ _ => hlength) rfl rfl
  apply follows_fetch_bind fun s => hread [] s (by simp)
  intro s
  apply Prog.follows_ofExcept_bind
  intro row hrow
  apply follows_fetch_bind fun t => hread _ t (by simp)
  intro t
  apply follows_fetch_bind fun u => hread _ u (by simp)
  intro u
  cases hkind : row.kind with
  | unknown text => trivial
  | click =>
      apply follows_write_bind
      · exact fun v => .meet (by simp) rfl
      intro v
      split_ifs with hboth
      · apply follows_execute_bind
        · exact fun w => .leadOn _ (by simp) rfl
        · intro w db _ _
          simp
      · apply answerWithToken_follows rfl
        exact ⟨⟨id, s⟩, rfl, .inr ⟨⟨row, checkBotChallenge_ok hrow, hkind⟩, ⟨id, t⟩, rfl, hboth⟩⟩
  | puzzle =>
      cases hanswer : req.answer with
      | none => exact Prog.follows_ret (by simp [tryAgain])
      | some answer =>
          cases hexpected : row.expectedAnswer with
          | none => trivial
          | some expected =>
              dsimp only
              split_ifs with hwrong
              · exact Prog.follows_ret (by simp [tryAgain])
              · apply follows_write_bind
                · exact fun v => .meet rfl rfl
                intro v
                apply answerWithToken_follows rfl
                refine ⟨⟨id, s⟩, rfl, .inl (solves?_of_answer hrow hkind hanswer ?_)⟩
                rw [hexpected, not_not.mp hwrong]

/-- A login leaves both tables alone, apart from the token that it consumes. -/
theorem verify_challenges {env : LoginEnv} {req : VerifyRequest} :
    (verify lib env req).Follows (GateSent lib (.verify env req)) (fun _ _ => True) [] := by
  have hwrites : ∀ past sent, loginWrites past sent →
      sent.after.db.botChallenges = sent.before.db.botChallenges ∧
        sent.after.db.challengeTokens = sent.before.db.challengeTokens :=
    fun past sent h => ⟨(h.spared sent.before).botChallenges,
      (h.spared sent.before).challengeTokens⟩
  rw [verify_eq_challenge]
  refine Prog.Follows.cut_once
    (verifyToChallenge_follows _ hwrites fun _ _ _ => ⟨rfl, rfl⟩) ?_ ?_ fun member past => ?_
  · exact fun past sent hnone h => .aside hnone (by simp) h.1 h.2
  · exact fun member token past s htoken _ => .consume htoken rfl
  · apply ((sessionScope_writes member.1 member.2).mono (fun _ _ _ => hwrites _ _)
      fun _ _ _ h => h).bind_any
    exact fun _ _ _ => trivial

theorem GateRequest.handler_follows (request : GateRequest) :
    (request.handler lib).Follows (GateSent lib request) request.Told [] := by
  cases request with
  | newChallenge env pubkey =>
      apply newChallenge_follows.bind_any
      rintro prompt past - env' req response h
      cases h
  | verifyChallenge env req =>
      apply verifyChallenge_follows.bind
      rintro response past - hok env' req' response' - h hok'
      cases h
      exact hok hok'
  | verify env req =>
      apply verify_challenges.bind_any
      rintro response past - env' req' response' h
      cases h

end Statements

/-! ## What is consumed stays consumed -/

section Spent

variable {lib : Crates} {request : GateRequest} {past : List (Sent AppState)} {sent : Sent AppState}

def AppState.spentChallenge (s : AppState) (id : String) : Prop :=
  ∃ row ∈ s.db.botChallenges.find? id, row.consumedAt ≠ none

def AppState.spentToken (s : AppState) (token : String) : Prop :=
  ∃ row ∈ s.db.challengeTokens.find? token, row.consumedAt ≠ none

theorem spentChallenge_congr {s t : AppState} {id : String}
    (h : t.db.botChallenges = s.db.botChallenges) : t.spentChallenge id ↔ s.spentChallenge id := by
  rw [AppState.spentChallenge, AppState.spentChallenge, h]

theorem spentToken_congr {s t : AppState} {token : String}
    (h : t.db.challengeTokens = s.db.challengeTokens) : t.spentToken token ↔
    s.spentToken token := by
  rw [AppState.spentToken, AppState.spentToken, h]

theorem challengeTokens_insertBotChallenge {row : BotChallengeRow} {db db' : Db}
    (h : insertBotChallenge row db = .ok db') : db'.challengeTokens = db.challengeTokens ∧
      db'.botChallenges.rows = db.botChallenges.rows ++ [row] := by
  unfold insertBotChallenge at h
  split at h
  · cases h
  · rename_i botChallenges hinsert
    cases h
    exact ⟨rfl, (Table.insert?_eq_some_iff.mp hinsert).2⟩

theorem botChallenges_insertChallengeToken {row : ChallengeTokenRow} {db db' : Db}
    (h : insertChallengeToken row db = .ok db') : db'.botChallenges = db.botChallenges ∧
      db'.challengeTokens.rows = db.challengeTokens.rows ++ [row] := by
  unfold insertChallengeToken at h
  split at h
  · cases h
  · rename_i challengeTokens hinsert
    cases h
    exact ⟨rfl, (Table.insert?_eq_some_iff.mp hinsert).2⟩

/-- The statements that insert a challenge. -/
theorem spent_insertBotChallenge {row : BotChallengeRow}
    (h : sent.statement = executed (insertBotChallenge row)) :
    sent.after.db.challengeTokens = sent.before.db.challengeTokens ∧
      ∀ id, sent.before.spentChallenge id → sent.after.spentChallenge id := by
  rw [Sent.after, h]
  rcases executed_cases (insertBotChallenge row) sent.before with hsame | ⟨db, hdb, hafter⟩
  · rw [hsame]
    exact ⟨rfl, fun _ hspent => hspent⟩
  · rcases challengeTokens_insertBotChallenge hdb with ⟨htokens, hrows⟩
    rw [hafter]
    refine ⟨htokens, ?_⟩
    rintro id ⟨found, hfound, hspent⟩
    exact ⟨found, Table.find?_of_append_of_mem hrows hfound, hspent⟩

theorem find?_consumeBotChallenge (id : String) (now : Int) (db : Db) (other : String) :
    (consumeBotChallenge id now db).botChallenges.find? other =
      (db.botChallenges.find? other).map fun row =>
        if decide (row.id = id) then { row with consumedAt := some now } else row := by
  unfold consumeBotChallenge
  rw [Table.find?_update]

theorem find?_consumeChallengeToken (token : String) (now : Int) (db : Db) (other : String) :
    (consumeChallengeToken token now db).challengeTokens.find? other =
      (db.challengeTokens.find? other).map fun row =>
        if decide (row.token = token) then { row with consumedAt := some now } else row := by
  unfold consumeChallengeToken
  rw [Table.find?_update]

theorem spent_consumeBotChallenge (id other : String) (now : Int) (s : AppState)
    (h : s.spentChallenge other) :
    (written (consumeBotChallenge id now) s).spentChallenge other := by
  rcases h with ⟨row, hrow, hspent⟩
  rw [AppState.spentChallenge, written, withDb_db, find?_consumeBotChallenge,
    Option.mem_def.mp hrow]
  refine ⟨_, rfl, ?_⟩
  dsimp only
  split_ifs
  · simp
  · exact hspent

theorem GateSent.keeps_challenge (h : GateSent lib request past sent) {id : String}
    (hspent : sent.before.spentChallenge id) : sent.after.spentChallenge id := by
  cases h with
  | aside _ _ hchallenges _ => rwa [spentChallenge_congr hchallenges]
  | consume _ h =>
      rw [Sent.after, h]
      exact hspent
  | create row h => exact (spent_insertBotChallenge h).2 id hspent
  | meet _ h =>
      rw [Sent.after, h]
      exact spent_consumeBotChallenge _ _ _ _ hspent
  | leadOn row _ h => exact (spent_insertBotChallenge h).2 id hspent
  | @issue env req _ _ _ _ h =>
      rw [Sent.after, h]
      rcases executed_cases (insertChallengeToken (newChallengeToken env req.pubkey))
        sent.before with hsame | ⟨db, hdb, hafter⟩
      · rwa [hsame]
      · rw [hafter]
        exact (spentChallenge_congr (botChallenges_insertChallengeToken hdb).1).mpr hspent

theorem GateSent.keeps_token (h : GateSent lib request past sent) {token : String}
    (hspent : sent.before.spentToken token) : sent.after.spentToken token := by
  cases h with
  | aside _ _ _ htokens => rwa [spentToken_congr htokens]
  | @consume env req _ _ consumed _ h =>
      rcases hspent with ⟨row, hrow, hconsumed⟩
      rw [Sent.after, h]
      rw [AppState.spentToken, written, withDb_db, find?_consumeChallengeToken,
        Option.mem_def.mp hrow]
      refine ⟨_, rfl, ?_⟩
      dsimp only
      split_ifs
      · simp
      · exact hconsumed
  | create row h => rwa [spentToken_congr (spent_insertBotChallenge h).1]
  | meet _ h =>
      rw [Sent.after, h]
      exact hspent
  | leadOn row _ h => rwa [spentToken_congr (spent_insertBotChallenge h).1]
  | @issue env req _ _ _ _ h =>
      rw [Sent.after, h]
      rcases executed_cases (insertChallengeToken (newChallengeToken env req.pubkey))
        sent.before with hsame | ⟨db, hdb, hafter⟩
      · rwa [hsame]
      · rcases hspent with ⟨row, hrow, hconsumed⟩
        rw [hafter]
        exact ⟨row, Table.find?_of_append_of_mem (botChallenges_insertChallengeToken hdb).2 hrow,
          hconsumed⟩

end Spent

/-! ## Runs -/

section Runs

variable {lib : Crates} {s t : AppState} {history : List GateEvent}

theorem meets?_eq_some_iff {request : GateRequest} {past : List (Sent AppState)} {id : String} :
    request.meets? past = some id ↔
      ∃ env req, request = .verifyChallenge env req ∧ req.id = id ∧ past.length = 3 := by
  cases request with
  | newChallenge env pubkey => simp [GateRequest.meets?]
  | verify env req => simp [GateRequest.meets?]
  | verifyChallenge env req =>
      simp only [GateRequest.meets?, Option.ite_none_right_eq_some, Option.some.injEq,
        GateRequest.verifyChallenge.injEq]
      constructor
      · rintro ⟨hlength, hid⟩
        exact ⟨env, req, ⟨rfl, rfl⟩, hid, hlength⟩
      · rintro ⟨_, _, ⟨rfl, rfl⟩, hid, hlength⟩
        exact ⟨hlength, hid⟩

/-- The statement with which a challenge is met consumes it. -/
theorem GateSent.meets {request : GateRequest} {past : List (Sent AppState)} {sent : Sent AppState}
    (h : GateSent lib request past sent) {id : String} (hmeets : request.meets? past = some id) :
    ∃ now, sent.statement = written (consumeBotChallenge id now) := by
  rcases meets?_eq_some_iff.mp hmeets with ⟨env, req, rfl, rfl, hlength⟩
  cases h with
  | aside _ hless _ _ =>
      have := hless env req rfl
      omega
  | meet _ h => exact ⟨env.now, h⟩
  | leadOn _ hlength' _ => omega
  | issue hlength' _ _ => omega

theorem GateSent.consumes {request : GateRequest} {past : List (Sent AppState)}
    {sent : Sent AppState} (h : GateSent lib request past sent) {token : String}
    (hconsumes : request.consumes? lib past = some token) :
    ∃ now, sent.statement = written (consumeChallengeToken token now) := by
  cases h with
  | aside hnone _ _ _ =>
      rw [hconsumes] at hnone
      cases hnone
  | @consume env req _ _ token' hsome h =>
      rw [hconsumes] at hsome
      cases hsome
      exact ⟨env.now, h⟩
  | create | meet | leadOn | issue => cases hconsumes

/-- A challenge is met once. -/
theorem meets_once (h : Interleaving (GateSent lib) s history t)
    (hright : ConsumesRight lib history)
    {pre post pre' post' : List GateEvent} {e e' : GateEvent} {id : String}
    (hsplit : history = pre ++ e :: post) (hsplit' : history = pre' ++ e' :: post')
    (hmeets : e.request.meets? (sentBy e.job pre) = some id)
    (hmeets' : e'.request.meets? (sentBy e'.job pre') = some id) : e = e' := by
  have huse : ∀ {pre post : List GateEvent} {e : GateEvent}, history = pre ++ e :: post →
      e.request.meets? (sentBy e.job pre) = some id →
      ¬ e.before.spentChallenge id ∧ e.after.spentChallenge id := by
    intro pre post e hsplit hmeets
    rcases ((hright pre e post hsplit).2 id hmeets).1 with ⟨row, hrow, hfresh⟩
    constructor
    · rintro ⟨other, hother, hspent⟩
      rw [Option.mem_def.mp hrow] at hother
      cases hother
      exact hspent hfresh
    · rcases (h.split hsplit).2.1.meets hmeets with ⟨now, hstatement⟩
      have hid : row.id = id := (Table.find?_eq_some_iff.mp hrow).2
      rw [Sent.after, hstatement, AppState.spentChallenge, written, withDb_db,
        find?_consumeBotChallenge, Option.mem_def.mp hrow]
      exact ⟨_, rfl, by simp [hid]⟩
  rcases huse hsplit hmeets with ⟨hfresh, hspent⟩
  rcases huse hsplit' hmeets' with ⟨hfresh', hspent'⟩
  refine (h.same_of_spent (fun s => s.spentChallenge id) ?_ hsplit hsplit' hfresh hfresh' hspent
    hspent').2
  intro other hother hbefore
  rcases h.good_of_mem hother with ⟨past, hgood⟩
  exact hgood.keeps_challenge hbefore

/-- A token is consumed once. -/
theorem consumes_once (h : Interleaving (GateSent lib) s history t)
    (hright : ConsumesRight lib history) {pre post pre' post' : List GateEvent} {e e' : GateEvent}
    {token : String} (hsplit : history = pre ++ e :: post) (hsplit' : history = pre' ++ e' :: post')
    (hconsumes : e.request.consumes? lib (sentBy e.job pre) = some token)
    (hconsumes' : e'.request.consumes? lib (sentBy e'.job pre') = some token) : e = e' := by
  have huse : ∀ {pre post : List GateEvent} {e : GateEvent}, history = pre ++ e :: post →
      e.request.consumes? lib (sentBy e.job pre) = some token →
      ¬ e.before.spentToken token ∧ e.after.spentToken token := by
    intro pre post e hsplit hconsumes
    rcases (hright pre e post hsplit).1 token hconsumes with ⟨row, hrow, hfresh⟩
    constructor
    · rintro ⟨other, hother, hspent⟩
      rw [Option.mem_def.mp hrow] at hother
      cases hother
      exact hspent hfresh
    · rcases (h.split hsplit).2.1.consumes hconsumes with ⟨now, hstatement⟩
      have htoken : row.token = token := (Table.find?_eq_some_iff.mp hrow).2
      rw [Sent.after, hstatement, AppState.spentToken, written, withDb_db,
        find?_consumeChallengeToken, Option.mem_def.mp hrow]
      exact ⟨_, rfl, by simp [htoken]⟩
  rcases huse hsplit hconsumes with ⟨hfresh, hspent⟩
  rcases huse hsplit' hconsumes' with ⟨hfresh', hspent'⟩
  refine (h.same_of_spent (fun s => s.spentToken token) ?_ hsplit hsplit' hfresh hfresh' hspent
    hspent').2
  intro other hother hbefore
  rcases h.good_of_mem hother with ⟨past, hgood⟩
  exact hgood.keeps_token hbefore

/-- A request that has sent more than its reads has met its challenge. -/
theorem exists_meet (h : Interleaving (GateSent lib) s history t) {known : GateEvent}
    (hknown : known ∈ history) {env : BotChallengeEnv} {req : VerifyChallengeRequest}
    (hrequest : known.request = .verifyChallenge env req)
    (hlength : 3 < (sentBy known.job history).length) :
    ∃ pre e post, history = pre ++ e :: post ∧ e.job = known.job ∧
      e.request.meets? (sentBy e.job pre) = some req.id ∧
      sentBy known.job pre = (sentBy known.job history).take 3 := by
  have hprefix : (sentBy known.job history).take 3 ++ [(sentBy known.job history)[3]] <+:
      sentBy known.job history := by
    rw [List.take_concat_get']
    exact List.take_prefix _ _
  rcases exists_event hprefix with ⟨pre, e, post, hsplit, hjob, -, hpre⟩
  refine ⟨pre, e, post, hsplit, hjob, meets?_eq_some_iff.mpr ⟨env, req, ?_, rfl, ?_⟩, hpre⟩
  · rw [← hrequest]
    exact h.request_eq (by rw [hsplit]; simp) hknown hjob
  · rw [hjob, hpre, List.length_take]
    omega

theorem ConsumesRight.init {last : GateEvent} (h : ConsumesRight lib (history ++ [last])) :
    ConsumesRight lib history :=
  fun pre e post hsplit => h pre e (post ++ [last]) (by simp [hsplit])

end Runs

/-! ## Counting tokens -/

section Tokens

variable {lib : Crates} {s t : AppState} {history : List GateEvent} {pubkey : String}

theorem tokensOf_congr {db db' : Db} (h : db'.challengeTokens = db.challengeTokens)
    (pubkey : String) : db'.tokensOf pubkey = db.tokensOf pubkey := by
  rw [Db.tokensOf, Db.tokensOf, h]

theorem tokensOf_consumeChallengeToken (token : String) (now : Int) (db : Db) (pubkey : String) :
    (consumeChallengeToken token now db).tokensOf pubkey = db.tokensOf pubkey := by
  have hpubkey : ∀ row : ChallengeTokenRow,
      (if decide (row.token = token) then { row with consumedAt := some now } else row).pubkey =
        row.pubkey := by
    intro row
    split_ifs <;> rfl
  unfold Db.tokensOf consumeChallengeToken
  rw [Table.rows_update, List.filter_map, List.length_map]
  congr 1
  apply List.filter_congr
  intro row _
  rw [Function.comp_apply, hpubkey]

/-- What a statement does to the number of tokens of a key. -/
theorem GateSent.tokensOf {request : GateRequest} {past : List (Sent AppState)}
    {sent : Sent AppState} (h : GateSent lib request past sent) (pubkey : String) :
    sent.after.db.tokensOf pubkey = sent.before.db.tokensOf pubkey ∨
      (∃ env req, request = .verifyChallenge env req ∧ req.pubkey = pubkey ∧ past.length = 4 ∧
        Met lib env req past) ∧
        sent.after.db.tokensOf pubkey = sent.before.db.tokensOf pubkey + 1 := by
  cases h with
  | aside _ _ _ htokens => exact .inl (tokensOf_congr htokens pubkey)
  | consume _ h =>
      rw [Sent.after, h]
      exact .inl (tokensOf_consumeChallengeToken _ _ _ pubkey)
  | create row h => exact .inl (tokensOf_congr (spent_insertBotChallenge h).1 pubkey)
  | meet _ h =>
      rw [Sent.after, h]
      exact .inl rfl
  | leadOn row _ h => exact .inl (tokensOf_congr (spent_insertBotChallenge h).1 pubkey)
  | @issue env req _ _ hlength hmet h =>
      rw [Sent.after, h]
      rcases executed_cases (insertChallengeToken (newChallengeToken env req.pubkey))
        sent.before with hsame | ⟨db, hdb, hafter⟩
      · rw [hsame]
        exact .inl rfl
      · have hrows := (botChallenges_insertChallengeToken hdb).2
        rw [hafter, withDb_db, Db.tokensOf, hrows, List.filter_append, List.length_append]
        by_cases hpubkey : req.pubkey = pubkey
        · refine .inr ⟨⟨env, req, rfl, hpubkey, hlength, hmet⟩, ?_⟩
          simp [Db.tokensOf, newChallengeToken, hpubkey]
        · refine .inl ?_
          simp [Db.tokensOf, newChallengeToken, hpubkey]

/-- The puzzles for which tokens were issued to a key. -/
structure Issued (lib : Crates) (pubkey : String) (history : List GateEvent) (ids : List String) :
    Prop where
  nodup : ids.Nodup
  solved : ∀ id ∈ ids, id ∈ solved lib pubkey history
  -- Whoever got the token has sent everything.
  job : ∀ id ∈ ids, ∃ e ∈ history, ∃ env req, e.request = .verifyChallenge env req ∧ req.id = id ∧
    4 < (sentBy e.job history).length

theorem solved_mono {history more : List GateEvent} {id : String}
    (h : id ∈ solved lib pubkey history) : id ∈ solved lib pubkey (history ++ more) := by
  rw [solved, List.filterMap_append, List.toFinset_append, Finset.mem_union]
  exact .inl h

theorem mem_solved {e : GateEvent} (he : e ∈ history) {id : String}
    (h : e.request.solves? lib pubkey e.before.db = some id) : id ∈ solved lib pubkey history := by
  rw [solved, List.mem_toFinset, List.mem_filterMap]
  exact ⟨e, he, h⟩

theorem Issued.snoc {ids : List String} (h : Issued lib pubkey history ids) (last : GateEvent) :
    Issued lib pubkey (history ++ [last]) ids where
  nodup := h.nodup
  solved id hid := solved_mono (h.solved id hid)
  job id hid := by
    rcases h.job id hid with ⟨e, he, env, req, hrequest, hreq, hlength⟩
    refine ⟨e, List.mem_append_left _ he, env, req, hrequest, hreq, ?_⟩
    rw [sentBy_append, List.length_append]
    omega

/-- A request that is about to send its last statement has met its challenge. -/
theorem exists_meet_last {last : GateEvent} {env : BotChallengeEnv} {req : VerifyChallengeRequest}
    (h : Interleaving (GateSent lib) s (history ++ [last]) t)
    (hrequest : last.request = .verifyChallenge env req)
    (hlength : (sentBy last.job history).length = 4) :
    ∃ pre e post, history ++ [last] = pre ++ e :: post ∧ e.job = last.job ∧
      e.request.meets? (sentBy e.job pre) = some req.id ∧
      ∀ n < 3, (sentBy e.job pre)[n]? = (sentBy last.job history)[n]? := by
  have hlast : last ∈ history ++ [last] := by simp
  have hsent : sentBy last.job (history ++ [last]) = sentBy last.job history ++ [last.toSent] :=
    sentBy_snoc_self history last
  have hlonger : 3 < (sentBy last.job (history ++ [last])).length := by
    rw [hsent]
    simp [hlength]
  rcases exists_meet h hlast hrequest hlonger with ⟨pre, e, post, hsplit, hjob, hmeets, hpre⟩
  refine ⟨pre, e, post, hsplit, hjob, hmeets, fun n hn => ?_⟩
  rw [hjob, hpre, hsent, List.getElem?_take_of_lt hn, List.getElem?_append_left (by omega)]

/-- A token goes to a request whose puzzle was solved. -/
theorem solved_of_met {last : GateEvent} {env : BotChallengeEnv} {req : VerifyChallengeRequest}
    (h : Interleaving (GateSent lib) s (history ++ [last]) t)
    (hright : ConsumesRight lib (history ++ [last]))
    (hrequest : last.request = .verifyChallenge env req)
    (hlength : (sentBy last.job history).length = 4)
    (hmet : Met lib env req (sentBy last.job history)) :
    req.id ∈ solved lib req.pubkey (history ++ [last]) := by
  rcases hmet with ⟨read, hread, hsolves | ⟨⟨row, hrow, hkind⟩, mode, hmode, hboth⟩⟩
  · rcases mem_sentBy.mp (List.mem_of_getElem? hread) with ⟨e, he, hjob, rfl⟩
    have hsame : e.request = last.request :=
      h.request_eq (List.mem_append_left _ he) (by simp) hjob
    refine mem_solved (List.mem_append_left _ he) ?_
    rw [hsame, hrequest]
    exact hsolves
  · -- The click was let through where a puzzle was to follow.
    rcases exists_meet_last h hrequest hlength with ⟨pre, e, post, hsplit, -, hmeets, hreads⟩
    refine absurd ?_ hboth
    exact ((hright pre e post hsplit).2 req.id hmeets).2 read
      (by rw [hreads 0 (by omega)]; exact hread)
      row hrow hkind mode (by rw [hreads 1 (by omega)]; exact hmode)

/-- A puzzle for which a token is issued has not led to one before. -/
theorem Issued.not_mem {ids : List String} {last : GateEvent} {env : BotChallengeEnv}
    {req : VerifyChallengeRequest} (hissued : Issued lib pubkey history ids)
    (h : Interleaving (GateSent lib) s (history ++ [last]) t)
    (hright : ConsumesRight lib (history ++ [last]))
    (hrequest : last.request = .verifyChallenge env req)
    (hlength : (sentBy last.job history).length = 4) : req.id ∉ ids := by
  intro hid
  rcases hissued.job req.id hid with ⟨other, hother, env', req', hrequest', hsame, hlength'⟩
  have hlonger : 3 < (sentBy other.job (history ++ [last])).length := by
    rw [sentBy_append, List.length_append]
    omega
  rcases exists_meet_last h hrequest hlength with ⟨pre, e, post, hsplit, hjob, hmeets, -⟩
  rcases exists_meet h (List.mem_append_left _ hother) hrequest' hlonger with
    ⟨pre', e', post', hsplit', hjob', hmeets', -⟩
  rw [hsame] at hmeets'
  have hevent : e = e' := meets_once h hright hsplit hsplit' hmeets hmeets'
  have hjobs : last.job = other.job := by rw [← hjob, ← hjob', hevent]
  rw [← hjobs, hlength] at hlength'
  omega

/-- Along a run, tokens are issued for puzzles that were solved. -/
theorem issued_run (h : Interleaving (GateSent lib) s history t)
    (hright : ConsumesRight lib history) (pubkey : String) :
    ∃ ids, Issued lib pubkey history ids ∧
      t.db.tokensOf pubkey = s.db.tokensOf pubkey + ids.length := by
  induction h with
  | idle => exact ⟨[], ⟨List.nodup_nil, by simp, by simp⟩, rfl⟩
  | @exec history t last hrun hbefore hown hgood ih =>
      subst hbefore
      have hall : Interleaving (GateSent lib) s (history ++ [last]) last.after :=
        .exec last hrun rfl hown hgood
      rcases ih hright.init with ⟨ids, hissued, hcount⟩
      rcases hgood.tokensOf pubkey with hsame | ⟨⟨env, req, hrequest, rfl, hlength, hmet⟩, hone⟩
      · exact ⟨ids, hissued.snoc last, hsame.trans hcount⟩
      · refine ⟨ids ++ [req.id], ?_, ?_⟩
        · have hsnoc := hissued.snoc last
          have hnew : req.id ∉ ids := hissued.not_mem hall hright hrequest hlength
          constructor
          · rw [List.nodup_append]
            refine ⟨hsnoc.nodup, by simp, ?_⟩
            rintro id hid _ hother rfl
            rw [List.mem_singleton.mp hother] at hid
            exact hnew hid
          · intro id hid
            rcases List.mem_append.mp hid with hold | hlast
            · exact hsnoc.solved id hold
            · rw [List.mem_singleton.mp hlast]
              exact solved_of_met hall hright hrequest hlength hmet
          · intro id hid
            rcases List.mem_append.mp hid with hold | hlast
            · exact hsnoc.job id hold
            · refine ⟨last, by simp, env, req, hrequest, (List.mem_singleton.mp hlast).symm, ?_⟩
              rw [sentBy_snoc_self history last, List.length_append, hlength]
              simp
        · rw [hone, hcount, List.length_append, List.length_singleton, Nat.add_assoc]

theorem Issued.length_le {ids : List String} (h : Issued lib pubkey history ids) :
    ids.length ≤ (Hub.solved lib pubkey history).card := by
  have hsubset : ids.toFinset ⊆ Hub.solved lib pubkey history := by
    intro id hid
    exact h.solved id (List.mem_toFinset.mp hid)
  calc ids.length = ids.toFinset.card := (List.toFinset_card_of_nodup h.nodup).symm
    _ ≤ (Hub.solved lib pubkey history).card := Finset.card_le_card hsubset

end Tokens

theorem gateRun_sound (lib : Crates) (moves : List (Move GateRequest)) (s : AppState) :
    (gateRun lib moves s).Sound (GateRequest.handler lib) (GateSent lib) GateRequest.Told s :=
  Server.sound_serve GateRequest.handler_follows moves s

/-- The statement with which a challenge was met that has led to something. -/
theorem exists_meet_of_yielded {lib : Crates} {moves : List (Move GateRequest)} {s : AppState}
    {id : String} {job : ℕ} (h : Yielded id (gateRun lib moves s) job) :
    ∃ pre e post, (gateRun lib moves s).history = pre ++ e :: post ∧ e.job = job ∧
      e.request.meets? (sentBy e.job pre) = some id := by
  rcases h with ⟨env, req, response, hrequest, rfl, hanswer, hok⟩
  have hsound := gateRun_sound lib moves s
  have hlength : 3 < (sentBy job (gateRun lib moves s).history).length :=
    hsound.returned hrequest hanswer env req response rfl rfl hok
  rcases mem_sentBy.mp (List.getElem_mem (Nat.zero_lt_of_lt hlength)) with ⟨known, hknown, rfl, -⟩
  have hsame : known.request = .verifyChallenge env req :=
    Option.some.inj ((hsound.request?_eq hknown).symm.trans hrequest)
  rcases exists_meet hsound.run hknown hsame hlength with ⟨pre, e, post, hsplit, hjob, hmeets, -⟩
  exact ⟨pre, e, post, hsplit, hjob, hmeets⟩

/-- The statement with which the token was consumed of a login that has passed. -/
theorem exists_consume_of_passedGate {lib : Crates} {moves : List (Move GateRequest)} {s : AppState}
    {token : String} {job : ℕ} (h : PassedGate lib token (gateRun lib moves s) job) :
    ∃ pre e post, (gateRun lib moves s).history = pre ++ e :: post ∧ e.job = job ∧
      e.request.consumes? lib (sentBy e.job pre) = some token := by
  rcases h with ⟨request, hrequest, before, sent, hprefix, hconsumes⟩
  rcases exists_event hprefix with ⟨pre, e, post, hsplit, rfl, -, hpre⟩
  have hknown := (gateRun_sound lib moves s).request?_eq (e := e) (by rw [hsplit]; simp)
  rw [hrequest] at hknown
  cases hknown
  exact ⟨pre, e, post, hsplit, rfl, hpre ▸ hconsumes⟩

/-- As long as whatever is consumed has not been consumed since it was read, and a click
leads on to a puzzle, a key gets no more tokens than it has solved puzzles, a challenge
leads to one thing and a token lets one login pass. -/
theorem gateRight_of_consumesRight (lib : Crates) (moves : List (Move GateRequest)) (s : AppState)
    (hright : ConsumesRight lib (gateRun lib moves s).history) :
    GateRight lib s (gateRun lib moves s) where
  tokens pubkey := by
    rcases issued_run (gateRun_sound lib moves s).run hright pubkey with ⟨ids, hissued, hcount⟩
    have := hissued.length_le
    omega
  challenges id job job' h h' := by
    rcases exists_meet_of_yielded h with ⟨pre, e, post, hsplit, rfl, hmeets⟩
    rcases exists_meet_of_yielded h' with ⟨pre', e', post', hsplit', rfl, hmeets'⟩
    rw [meets_once (gateRun_sound lib moves s).run hright hsplit hsplit' hmeets hmeets']
  logins token job job' h h' := by
    rcases exists_consume_of_passedGate h with ⟨pre, e, post, hsplit, rfl, hconsumes⟩
    rcases exists_consume_of_passedGate h' with ⟨pre', e', post', hsplit', rfl, hconsumes'⟩
    rw [consumes_once (gateRun_sound lib moves s).run hright hsplit hsplit' hconsumes hconsumes']

/-- The digests of two answers, apart from the recorded signatures. -/
def gateLib : Crates :=
  { Crates.ofRecorded [laptopAnswer] with
    sha256 := fun bytes =>
      if bytes = asBytes "7" then
        [121, 2, 105, 155, 228, 44, 138, 142, 70, 251, 187, 69, 1, 114, 101, 23, 232, 107, 34, 197,
          106, 24, 159, 118, 37, 166, 218, 73, 8, 27, 36, 81]
      else if bytes = asBytes "8" then
        [44, 98, 66, 50, 205, 210, 33, 119, 18, 148, 223, 187, 49, 10, 202, 0, 10, 13,
          246, 172, 139, 102, 182, 150, 217, 14, 240, 111, 222, 251, 100, 163]
      else [] }

/-- A hub that asks for challenges of a kind, with those that are already out. -/
def guardedHub (mode : String) (botChallenges : Table BotChallengeRow (·.id)) : AppState where
  db := { Db.migrated with
    hubSettings := Db.migrated.hubSettings.replace ⟨"challenge_mode", mode⟩
    botChallenges := botChallenges }
  pendingChallenges := fun key =>
    if key = laptopKey then some ⟨laptopAnswer.message, 60⟩ else none

/-- The surroundings of a request on a challenge. -/
def BotChallengeEnv.of (now : Int) (id : String) (byte : UInt8) : BotChallengeEnv :=
  ⟨now, id, .replicate 32 byte, (2, 3), (0, 0)⟩

/-- A laptop clicks, tries a wrong and a right answer at the same time and logs in. -/
def laptopPasses : List (Move GateRequest) :=
  .start (.newChallenge (.of 10 "click" 0) laptopKey) :: .exec 0 :: .exec 0 :: .exec 0 ::
  .start (.verifyChallenge (.of 11 "puzzle" 0) ⟨"click", laptopKey, none⟩) ::
  .exec 1 :: .exec 1 :: .exec 1 :: .exec 1 :: .exec 1 ::
  .start (.verifyChallenge (.of 12 "" 2) ⟨"puzzle", laptopKey, some "8"⟩) ::
  .start (.verifyChallenge (.of 12 "" 3) ⟨"puzzle", laptopKey, some " 7"⟩) ::
  .exec 3 :: .exec 2 :: .exec 2 :: .exec 3 :: .exec 3 :: .exec 3 :: .exec 2 :: .exec 3 ::
  .start (.verify (.fixed 20 1)
    { VerifyRequest.ofRecorded laptopAnswer with
      challengeToken := some (hexEncode (.replicate 32 3)) }) ::
  .replicate 30 (.exec 4)

theorem laptopPasses_gateRight :
    GateRight gateLib (guardedHub "both" ∅) (gateRun gateLib laptopPasses (guardedHub "both" ∅)) :=
  gateRight_of_consumesRight gateLib laptopPasses (guardedHub "both" ∅)
    (forall_split_iff.mpr (by decide +kernel))

/-- A puzzle that waits for the answer 7. -/
def waitingPuzzle : Table BotChallengeRow (·.id) :=
  ⟨[⟨"puzzle", laptopKey, .puzzle, some (sha256Hex gateLib "7"), 0, 300, none⟩], by simp⟩

/-- The right answer is sent twice. -/
def answerTwice : List (Move GateRequest) :=
  [.start (.verifyChallenge (.of 10 "" 2) ⟨"puzzle", laptopKey, some "7"⟩),
    .start (.verifyChallenge (.of 10 "" 3) ⟨"puzzle", laptopKey, some "7"⟩)] ++
    (List.replicate 5 [.exec 0, .exec 1]).flatten

/-- The one puzzle is good for two tokens. -/
theorem answerTwice_not_gateRight :
    (guardedHub "puzzle" waitingPuzzle).db.challengeMode = "puzzle" ∧
      ¬ GateRight gateLib (guardedHub "puzzle" waitingPuzzle)
        (gateRun gateLib answerTwice (guardedHub "puzzle" waitingPuzzle)) := by
  refine ⟨by decide +kernel, fun hright => ?_⟩
  have htokens : (gateRun gateLib answerTwice (guardedHub "puzzle" waitingPuzzle)).state.db.tokensOf
      laptopKey = 2 := by
    decide +kernel
  have hsolved : solved gateLib laptopKey
      (gateRun gateLib answerTwice (guardedHub "puzzle" waitingPuzzle)).history = {"puzzle"} := by
    decide +kernel
  have hbound := hright.tokens laptopKey
  rw [htokens, hsolved, Finset.card_singleton] at hbound
  exact absurd hbound (by decide)

end Voxply.Hub
