import SceneRender.Proofs.Pipeline.KnownJob

/-!
# A rush of submissions

The same input is submitted many times at once, while the tasks that the submissions return
are worked off.  One submission at a time is inside; the work at the tasks goes on beside
it, and between two questions of one plan any other plan may ask its own.

A submission looks at the record of the known job first and asks who owns the job
afterwards, and the work at the task may let the job go in between: then the submission is
*overtaken*.  It takes the job for one that nobody works on, and makes a new one, although
the video is there.  `rush_enqueues_overtaken` counts the tasks of a rush in which stores
and renderer do what they are asked for: there is one more than there were submissions that
were overtaken or that found that the job had failed; and the renderer is called at most
once more than submissions were overtaken.  `rush_enqueues_twice` is a rush with a
submission that is overtaken, and with two renders of one input.

A rush has one of three forms (`Rush.Law`): a submission has to make a new job, or it is
about to return its task, or the task was returned; every move keeps this.
-/

namespace SceneRender

open Plan Pipeline ServiceExchange

/-! ## The rush -/

/-- Where a rush stands. -/
structure Rush where
  studio : Studio
  /-- What is left of the submission that is inside. -/
  inside : Option (ServicePlan (Except PipelineFault Submission)) := none
  /-- The tasks that were returned and that nobody works at. -/
  waiting : List RenderTask := []
  /-- The tasks that are worked at, with what is left of the work. -/
  working : List (RenderTask × ServicePlan (Except PipelineFault JobStatus)) := []
  /-- The answers of the submissions, the latest first. -/
  answers : List (Except PipelineFault Submission) := []
  /-- How often a job was let go while the submission inside was about to ask who owns it. -/
  overtaken : Nat := 0
  /-- How often a submission read that the known job had failed. -/
  failed : Nat := 0

/-- A move in a rush. -/
inductive RushMove where
  /-- A submission comes in. -/
  | come (allowRetry : Bool)
  /-- The submission inside asks its next question. -/
  | ask
  /-- The submission inside has its answer and goes. -/
  | leave
  /-- A waiting task is taken up. -/
  | take (n : Nat)
  /-- The work at a task asks its next question. -/
  | work (n : Nat)
  deriving DecidableEq, Repr

namespace Rush

/-- Does a question let the job go that the submission inside is about to test? -/
def overtakes (r : Rush) (q : ServiceQuestion) : Bool :=
  match q, r.inside with
  | .release id, some (.ask (.owns tested) _) => id == tested
  | _, _ => false

/-- What comes of a move, if it can be made. -/
def move? (crew : Crew) (maxRetries : Nat) (quality : Quality) (code : String) (r : Rush) :
    RushMove → Option Rush
  | .come allowRetry =>
    match r.inside with
    | none => some { r with inside := some (submit code quality allowRetry).run }
    | some _ => none
  | .ask =>
    match r.inside with
    | some (.ask q next) =>
      let (reply, studio) := Studio.reply crew q r.studio
      some { r with
        studio, inside := some (next reply)
        failed := r.failed + (findsFailed ⟨q, reply⟩).toNat }
    | some (.done _) | none => none
  | .leave =>
    match r.inside with
    | some (.done answer) =>
      some { r with
        inside := none, answers := answer :: r.answers
        waiting := r.waiting ++ (taskOf answer).toList }
    | some (.ask _ _) | none => none
  | .take n =>
    match r.waiting[n]? with
    | some task =>
      some { r with
        waiting := r.waiting.eraseIdx n
        working := r.working ++ [(task, process maxRetries task)] }
    | none => none
  | .work n =>
    match r.working[n]? with
    | some (task, .ask q next) =>
      let (reply, studio) := Studio.reply crew q r.studio
      some { r with
        studio, working := r.working.set n (task, next reply)
        overtaken := r.overtaken + (r.overtakes q).toNat }
    | some (_, .done _) | none => none

/-- The exchange of a move. -/
def exchange? (crew : Crew) (r : Rush) : RushMove → Option ServiceExchange
  | .ask =>
    match r.inside with
    | some (.ask q _) => some ⟨q, (Studio.reply crew q r.studio).1⟩
    | some (.done _) | none => none
  | .work n =>
    match r.working[n]? with
    | some (_, .ask q _) => some ⟨q, (Studio.reply crew q r.studio).1⟩
    | some (_, .done _) | none => none
  | .come _ | .leave | .take _ => none

/-- Stores and renderer do what they are asked for: no reply of a store is a fault, and every
render is successful and leaves a fresh video. -/
def isSmooth (crew : Crew) (r : Rush) (move : RushMove) : Bool :=
  (r.exchange? crew move).all fun e =>
    e.isFaultless && e.isFilmed && r.studio.keepsPromise crew e.question

/-- Plays moves one after the other, if each of them can be made and is smooth. -/
def play? (crew : Crew) (maxRetries : Nat) (quality : Quality) (code : String) (r : Rush) :
    List RushMove → Option Rush
  | [] => some r
  | move :: moves =>
    if r.isSmooth crew move then
      (r.move? crew maxRetries quality code move).bind fun r' =>
        r'.play? crew maxRetries quality code moves
    else none

/-- How many submissions returned a task? -/
def enqueued (r : Rush) : Nat := r.answers.countP fun answer => (taskOf answer).isSome

/-- The moves that can be made, one by one. -/
inductive Step (crew : Crew) (maxRetries : Nat) (quality : Quality) (code : String) (r : Rush) :
    RushMove → Rush → Prop
  | come (allowRetry : Bool) (free : r.inside = none) :
      Step crew maxRetries quality code r (.come allowRetry)
        { r with inside := some (submit code quality allowRetry).run }
  | ask {q : ServiceQuestion} {next : q.Reply → ServicePlan (Except PipelineFault Submission)}
      {reply : q.Reply} {s : Studio} (inside : r.inside = some (.ask q next))
      (replies : r.studio.Replies crew ⟨q, reply⟩ s)
      (exchange : r.exchange? crew .ask = some ⟨q, reply⟩) :
      Step crew maxRetries quality code r .ask
        { r with
          studio := s, inside := some (next reply)
          failed := r.failed + (findsFailed ⟨q, reply⟩).toNat }
  | leave {answer : Except PipelineFault Submission} (inside : r.inside = some (.done answer)) :
      Step crew maxRetries quality code r .leave
        { r with
          inside := none, answers := answer :: r.answers
          waiting := r.waiting ++ (taskOf answer).toList }
  | take {n : Nat} {task : RenderTask} (waits : r.waiting[n]? = some task) :
      Step crew maxRetries quality code r (.take n)
        { r with
          waiting := r.waiting.eraseIdx n
          working := r.working ++ [(task, process maxRetries task)] }
  | work {n : Nat} {task : RenderTask} {q : ServiceQuestion}
      {next : q.Reply → ServicePlan (Except PipelineFault JobStatus)} {reply : q.Reply}
      {s : Studio} (works : r.working[n]? = some (task, .ask q next))
      (replies : r.studio.Replies crew ⟨q, reply⟩ s)
      (exchange : r.exchange? crew (.work n) = some ⟨q, reply⟩) :
      Step crew maxRetries quality code r (.work n)
        { r with
          studio := s, working := r.working.set n (task, next reply)
          overtaken := r.overtaken + (r.overtakes q).toNat }

variable {crew : Crew} {maxRetries : Nat} {quality : Quality} {code : String} {r r' : Rush}
  {move : RushMove}

/-- A move that can be made is a step. -/
theorem step_of_move? (h : r.move? crew maxRetries quality code move = some r') :
    r.Step crew maxRetries quality code move r' := by
  cases move with
  | come allowRetry =>
      cases hinside : r.inside <;> simp only [move?, hinside] at h <;> cases h
      exact .come allowRetry hinside
  | ask =>
      rcases hinside : r.inside with _ | answer | ⟨q, next⟩ <;> simp only [move?, hinside] at h <;>
        cases h
      exact .ask hinside rfl (by simp [exchange?, hinside])
  | leave =>
      rcases hinside : r.inside with _ | answer | ⟨q, next⟩ <;> simp only [move?, hinside] at h <;>
        cases h
      exact .leave hinside
  | take n =>
      cases hwaits : r.waiting[n]? <;> simp only [move?, hwaits] at h <;> cases h
      exact .take hwaits
  | work n =>
      rcases hworks : r.working[n]? with _ | ⟨task, answer | ⟨q, next⟩⟩ <;>
        simp only [move?, hworks] at h <;> cases h
      exact .work hworks rfl (by simp [exchange?, hworks])

end Rush

/-! ## The law of a rush -/

namespace Rush

/-- What is left of the work at a task. -/
abbrev Working := RenderTask × ServicePlan (Except PipelineFault JobStatus)

variable {crew : Crew} {maxRetries : Nat} {quality : Quality} {code : String}
  {base renders : Nat} {r r' : Rush} {move : RushMove} {id : String} {s s' : Studio} {w : Working}

/-- The submission inside follows its turns from a stage for which a fact holds. -/
def Inside (r : Rush) (quality : Quality) (code : String) (fact : SubmitStage → Prop) : Prop :=
  ∀ p, r.inside = some p → ∃ allowRetry stage,
    p.Follows (SubmitTurn code quality allowRetry) SubmitEnd stage ∧ fact stage

/-- The work at a task stands in a stage. -/
def At (w : Working) (stage : WorkStage) : Prop :=
  w.2.Follows (WorkTurn w.1) (fun stage _ => stage = .complete) stage

/-- The record at a task is finished, and if its job has still to be let go, it is another one
than the one in front. -/
inductive Spent (s : Studio) (front : Option String) (w : Working) : Prop
  | complete (stands : At w .complete)
  | settled (stands : At w .settled) (there : s.jobs.Has w.1.jobId) (apart : front ≠ some w.1.jobId)

/-- The task of the known job waits, or the work at it stands in a stage; all other work is
spent. -/
inductive Task (r : Rush) (id : String) : WorkStage → Prop
  | waits {task : RenderTask} (waiting : r.waiting = [task]) (own : task.jobId = id)
      (spent : ∀ w ∈ r.working, Spent r.studio (some id) w) : Task r id .begun
  | worked {past : List Working} {w : Working} {stage : WorkStage} (waiting : r.waiting = [])
      (working : r.working = past ++ [w]) (own : w.1.jobId = id) (stands : At w stage)
      (spent : ∀ w ∈ past, Spent r.studio (some id) w) : Task r id stage

/-- How a rush stands: a submission has to make a new job, or it is about to return its task,
or the task was returned.  At the beginning nobody has to, as nothing is known. -/
inductive Law (crew : Crew) (quality : Quality) (code : String) (base : Nat) (r : Rush) : Prop
  | wanted {renders : Nat} (ready : Ready crew renders r.studio)
      (few : renders ≤ base + r.overtaken)
      (outside : r.inside = none → r.answers = [] ∧ r.working = [] ∧
        r.studio.cache.remembered? .render (inputPrint quality code) = none)
      (inside : r.Inside quality code fun stage =>
        Begins (inputPrint quality code) stage r.studio ∧
          ∀ w ∈ r.working, Spent r.studio (front stage) w)
      (waiting : r.waiting = []) (count : r.enqueued = r.overtaken + r.failed)
  | granted {renders : Nat} {job : Job} {task : RenderTask}
      (inside : r.inside = some (.done (.ok (.enqueued job task))))
      (known : Known crew (inputPrint quality code) task.jobId r.studio)
      (stands : Stands task.jobId renders .begun r.studio) (few : renders ≤ base + r.overtaken)
      (spent : ∀ w ∈ r.working, Spent r.studio (some task.jobId) w)
      (waiting : r.waiting = []) (count : r.enqueued = r.overtaken + r.failed)
  | taken {renders : Nat} {id : String} {stage : WorkStage}
      (known : Known crew (inputPrint quality code) id r.studio)
      (stands : Stands id renders stage r.studio) (few : renders ≤ base + r.overtaken)
      (inside : r.Inside quality code (Relies id stage r.studio)) (task : r.Task id stage)
      (count : r.enqueued = r.overtaken + r.failed + 1)

/-- The exchange of a smooth move goes well. -/
theorem goesWell_of_smooth {e : ServiceExchange} (hsmooth : r.isSmooth crew move = true)
    (he : r.exchange? crew move = some e) : GoesWell crew r.studio e := by
  simp only [isSmooth, he, Option.all_some, Bool.and_eq_true] at hsmooth
  exact ⟨hsmooth.1.1, hsmooth.1.2, hsmooth.2⟩

/-- Every question may get some reply. -/
theorem nonempty_reply (q : ServiceQuestion) : Nonempty q.Reply :=
  match q with
  | .createJob => ⟨(.error (.duplicate "") : Except StoreFault Job)⟩
  | .getJob _ | .updateJob _ _ => ⟨(.ok none : JobReply)⟩
  | .lookUp _ _ => ⟨(none : Option String)⟩
  | .remember _ _ _ | .claim _ | .release _ => ⟨()⟩
  | .findVideo _ | .cloneVideo _ _ => ⟨(.ok none : Except ArtifactFault (Option String))⟩
  | .keepVideo _ _ => ⟨(.ok "" : Except ArtifactFault String)⟩
  | .owns _ => ⟨true⟩
  | .render _ _ _ => ⟨RenderOutcome.timeout⟩
  | .repair _ _ => ⟨("" : String)⟩
  | .complete _ _ => ⟨(.ok "" : Except ModelFault String)⟩
  | .dispatch _ => ⟨(.ok () : Except PipelineFault Unit)⟩
  | .readVideo _ => ⟨(.ok default : Except DiskFault ByteArray)⟩

section Plans

variable {p : ServicePlan (Except PipelineFault Submission)} {allowRetry : Bool}

/-- A submission with an answer asks nothing more. -/
theorem done_of_answered {answer : Except PipelineFault Submission}
    (h : p.Follows (SubmitTurn code quality allowRetry) SubmitEnd (.answered answer)) :
    p = .done answer := by
  cases p with
  | done answer' => rw [SubmitStage.answered.inj h]
  | ask q next =>
      obtain ⟨reply⟩ := nonempty_reply q
      obtain ⟨stage', hturn, -⟩ := h reply
      cases hturn

/-- A submission that found an unfinished job tests who owns it. -/
theorem tests_of_doubtful {job : Job}
    (h : p.Follows (SubmitTurn code quality allowRetry) SubmitEnd (.doubtful job)) :
    ∃ next, p = .ask (.owns job.id) next := by
  cases p with
  | done answer => cases h
  | ask q next =>
      obtain ⟨reply⟩ := nonempty_reply q
      obtain ⟨stage', hturn, -⟩ := h reply
      cases hturn <;> exact ⟨next, rfl⟩

end Plans

/-- Only a submission that found an unfinished job tests who owns it. -/
theorem doubtful_of_tests {allowRetry : Bool} {stage : SubmitStage} {tested : String}
    {next : Bool → ServicePlan (Except PipelineFault Submission)}
    (h : Plan.Follows (V := serviceVocabulary) (SubmitTurn code quality allowRetry) SubmitEnd
      (.ask (.owns tested) next) stage) :
    ∃ job, stage = .doubtful job ∧ job.id = tested := by
  obtain ⟨stage', hturn, -⟩ := h true
  cases hturn
  exact ⟨_, rfl, rfl⟩

/-- A submission is overtaken by the release of the job that it is about to test. -/
theorem overtakes_iff {q : ServiceQuestion} :
    r.overtakes q = true ↔
      ∃ id next, q = .release id ∧ r.inside = some (.ask (.owns id) next) := by
  constructor
  · intro h
    unfold overtakes at h
    split at h
    · next id tested next hinside =>
      obtain rfl : id = tested := by simpa using h
      exact ⟨id, next, rfl, hinside⟩
    · cases h
  · rintro ⟨id, next, rfl, hinside⟩
    simp [overtakes, hinside]

/-! ### Work that is spent -/

/-- Spent work stays spent, if no job comes to the front that is there already. -/
theorem Spent.later {front front' : Option String} (h : Spent s front w)
    (hhas : ∀ id, s.jobs.Has id → s'.jobs.Has id)
    (hfront : ∀ id ∈ front', front = some id ∨ ¬ s.jobs.Has id) : Spent s' front' w := by
  cases h with
  | complete stands => exact .complete stands
  | settled stands there apart =>
      refine .settled stands (hhas _ there) fun hsame => ?_
      rcases hfront _ hsame with hold | hnew
      · exact apart hold
      · exact hnew there

/-- Spent work only lets its job go, which is not the one in front; then it is complete. -/
theorem Spent.asks {front : Option String} {task : RenderTask} {q : ServiceQuestion}
    {next : q.Reply → ServicePlan (Except PipelineFault JobStatus)}
    (h : Spent s front (task, .ask q next)) :
    q = .release task.jobId ∧ (∀ reply, At (task, next reply) .complete) ∧
      front ≠ some task.jobId := by
  obtain ⟨reply⟩ := nonempty_reply q
  cases h with
  | complete stands =>
      obtain ⟨stage', hturn, -⟩ := stands reply
      cases hturn
  | settled stands there apart =>
      refine ⟨?_, fun reply => ?_, apart⟩
      · obtain ⟨stage', hturn, -⟩ := stands reply
        exact congrArg Answered.question (released_of_settled hturn trivial).1
      · obtain ⟨stage', hturn, hrest⟩ := stands reply
        rwa [(released_of_settled hturn trivial).2] at hrest

/-- Work at one task goes on to its end while all other work stays spent. -/
theorem spent_set {front : Option String} {works : List Working} {n : Nat}
    (hspent : ∀ w ∈ works, Spent s front w) (hhas : ∀ id, s.jobs.Has id → s'.jobs.Has id)
    (hw : At w .complete) : ∀ w' ∈ works.set n w, Spent s' front w' := by
  intro w' hmem
  rcases List.mem_or_eq_of_mem_set hmem with hold | rfl
  · exact (hspent w' hold).later hhas fun id hid => Or.inl hid
  · exact .complete hw

/-- A job that is let go, and that is not the one in front, is nothing to a submission that
has to make a new job. -/
theorem begins_released {print : String} {stage : SubmitStage} (h : Begins print stage s)
    (hother : front stage ≠ some id) :
    Begins print stage { s with owned := s.owned.filter (· != id) } := by
  cases stage with
  | doubtful job =>
      intro hmem
      exact h (List.mem_filter.mp hmem).1
  | taken job =>
      obtain ⟨hthere, hopen, howned⟩ := h
      refine ⟨hthere, hopen, List.mem_filter.mpr ⟨howned, ?_⟩⟩
      have hne : job.id ≠ id := fun heq => hother (congrArg some heq)
      simpa using hne
  | _ => exact h

/-- The work of a task is settled when the record of its job says how it ended. -/
theorem Task.spent {stage : WorkStage} (h : r.Task id stage) (hsettled : IsSettled stage)
    (hthere : r.studio.jobs.Has id) :
    r.waiting = [] ∧ ∀ w ∈ r.working, Spent r.studio none w := by
  cases h with
  | waits => exact hsettled.elim
  | @worked past w stage waiting working own stands spent =>
      refine ⟨waiting, ?_⟩
      intro w' hmem
      rw [working, List.mem_append, List.mem_singleton] at hmem
      rcases hmem with hpast | rfl
      · exact (spent w' hpast).later (fun _ hhas => hhas) nofun
      · cases stage with
        | settled => exact .settled stands (own ▸ hthere) nofun
        | complete => exact .complete stands
        | _ => exact hsettled.elim

/-- Only the tasks matter, and that jobs stay. -/
theorem Task.congr {stage : WorkStage} (h : r.Task id stage) (hwaiting : r'.waiting = r.waiting)
    (hworking : r'.working = r.working)
    (hhas : ∀ id, r.studio.jobs.Has id → r'.studio.jobs.Has id) : r'.Task id stage := by
  have hlater : ∀ {works : List Working}, (∀ w ∈ works, Spent r.studio (some id) w) →
      ∀ w ∈ works, Spent r'.studio (some id) w :=
    fun hspent w hmem => (hspent w hmem).later hhas fun _ hid => Or.inl hid
  cases h with
  | waits waiting own spent =>
      exact .waits (hwaiting.trans waiting) own (hworking ▸ hlater spent)
  | worked waiting working own stands spent =>
      exact .worked (hwaiting.trans waiting) (hworking.trans working) own stands (hlater spent)

/-! ### The moves -/

/-- The law when a submission comes in. -/
theorem Law.come (h : Law crew quality code base r) (free : r.inside = none) (allowRetry : Bool) :
    Law crew quality code base { r with inside := some (submit code quality allowRetry).run } := by
  have hinside : ∀ fact : SubmitStage → Prop, fact .asked →
      Inside { r with inside := some (submit code quality allowRetry).run } quality code fact := by
    rintro fact hasked p ⟨⟩
    exact ⟨allowRetry, .asked, follows_submit code quality allowRetry, hasked⟩
  cases h with
  | wanted ready few outside inside waiting count =>
      obtain ⟨-, hworking, hunknown⟩ := outside free
      refine .wanted ready few nofun (hinside _ ⟨hunknown, ?_⟩) waiting count
      intro w hmem
      rw [hworking] at hmem
      cases hmem
  | granted inside =>
      rw [free] at inside
      cases inside
  | taken known stands few inside task count =>
      exact .taken known stands few (hinside _ trivial) (task.congr rfl rfl fun _ h => h) count

/-- The law when the submission inside asks a question. -/
theorem Law.ask (h : Law crew quality code base r) (hfresh : Function.Injective crew.freshId)
    (hsure : ∀ n call, crew.storeFailure n call = none) {q : ServiceQuestion}
    {next : q.Reply → ServicePlan (Except PipelineFault Submission)} {reply : q.Reply} {s : Studio}
    (hinside : r.inside = some (.ask q next)) (hreplies : r.studio.Replies crew ⟨q, reply⟩ s)
    (hgood : GoesWell crew r.studio ⟨q, reply⟩) :
    Law crew quality code base
      { r with
        studio := s, inside := some (next reply)
        failed := r.failed + (findsFailed ⟨q, reply⟩).toNat } := by
  have hhas : ∀ id, r.studio.jobs.Has id → s.jobs.Has id := fun _ => Studio.reply_has hreplies
  cases h with
  | wanted ready few outside inside waiting count =>
      obtain ⟨allowRetry, stage, hfollows, hbegins, hspent⟩ := inside _ hinside
      obtain ⟨stage', hturn, hrest⟩ := hfollows reply
      obtain ⟨hunread, hfront⟩ := front_of_begins hfresh hturn hreplies ready hbegins
      rw [hunread]
      have hspent' : ∀ w ∈ r.working, Spent s (front stage') w :=
        fun w hmem => (hspent w hmem).later hhas hfront
      rcases begins_turn hgood.faultless hturn hreplies ready hbegins with
        ⟨hready, hbegins'⟩ | ⟨job, rfl, hknown, hstands⟩
      · refine .wanted hready few nofun ?_ waiting count
        rintro p ⟨⟩
        exact ⟨allowRetry, stage', hrest, hbegins', hspent'⟩
      · exact .granted (congrArg some (done_of_answered hrest)) hknown hstands few hspent' waiting
          count
  | granted inside =>
      rw [hinside] at inside
      cases inside
  | @taken renders id work known stands few inside task count =>
      obtain ⟨allowRetry, stage, hfollows, hrelies⟩ := inside _ hinside
      obtain ⟨stage', hturn, hrest⟩ := hfollows reply
      obtain ⟨hknown, ⟨hunfailed, hstands, hrelies'⟩ | ⟨hfailed, rfl, hsettled, hrendered⟩⟩ :=
        relies_turn hfresh hsure hgood.faultless hturn hreplies known stands hrelies
      · rw [hunfailed]
        refine .taken hknown hstands few ?_ (task.congr rfl rfl hhas) count
        rintro p ⟨⟩
        exact ⟨allowRetry, stage', hrest, hrelies'⟩
      · -- the known job failed: this submission makes a new one
        rw [hfailed]
        obtain ⟨hwaiting, hspent⟩ := task.spent hsettled known.there
        refine .wanted ⟨hknown.order, hknown.working, hrendered⟩ few nofun ?_ hwaiting ?_
        · rintro p ⟨⟩
          exact ⟨allowRetry, .wanting, hrest, trivial,
            fun w hmem => (hspent w hmem).later hhas nofun⟩
        · exact count

/-- The law when the submission inside goes. -/
theorem Law.leave (h : Law crew quality code base r)
    {answer : Except PipelineFault Submission} (hinside : r.inside = some (.done answer)) :
    Law crew quality code base
      { r with
        inside := none, answers := answer :: r.answers
        waiting := r.waiting ++ (taskOf answer).toList } := by
  have hquiet : ∀ {fact : SubmitStage → Prop}, r.Inside quality code fact → fact (.answered answer) := by
    intro fact inside
    obtain ⟨allowRetry, stage, hend, hfact⟩ := inside _ hinside
    rwa [show stage = .answered answer from hend] at hfact
  cases h with
  | wanted ready few outside inside =>
      exact (hquiet inside).1.elim
  | @granted renders job task inside known stands few spent waiting count =>
      rw [hinside] at inside
      cases inside
      refine .taken known stands few nofun (.waits ?_ rfl spent) ?_
      · simp [taskOf, waiting]
      · simpa [enqueued, taskOf] using count
  | taken known stands few inside task count =>
      have hnone : taskOf answer = none := hquiet inside
      refine .taken known stands few nofun (task.congr ?_ rfl fun _ h => h) ?_
      · simp [hnone]
      · simpa [enqueued, hnone] using count

/-- The law when a task is taken up. -/
theorem Law.take (h : Law crew quality code base r) (maxRetries : Nat) {n : Nat}
    {task : RenderTask} (hwaits : r.waiting[n]? = some task) :
    Law crew quality code base
      { r with
        waiting := r.waiting.eraseIdx n
        working := r.working ++ [(task, process maxRetries task)] } := by
  cases h with
  | wanted ready few outside inside waiting => simp [waiting] at hwaits
  | granted inside known stands few spent waiting => simp [waiting] at hwaits
  | taken known stands few inside place count =>
      cases place with
      | worked waiting => simp [waiting] at hwaits
      | waits waiting own spent =>
          cases n with
          | succ n => simp [waiting] at hwaits
          | zero =>
              obtain rfl : _ = task := by simpa [waiting] using hwaits
              refine .taken known stands few inside (.worked ?_ rfl own
                (follows_process maxRetries _) spent) count
              simp [waiting]

section Work

variable {n : Nat} {task : RenderTask} {q : ServiceQuestion}
  {next : q.Reply → ServicePlan (Except PipelineFault JobStatus)} {reply : q.Reply}

/-- Work at the task of the known job goes on: the job is led on, and a submission is overtaken
when it is about to test who owns the job that is let go. -/
theorem Law.workKnown (hsure : ∀ n call, crew.storeFailure n call = none) {stage : WorkStage}
    {past : List Working} (known : Known crew (inputPrint quality code) task.jobId r.studio)
    (stands : Stands task.jobId renders stage r.studio) (few : renders ≤ base + r.overtaken)
    (inside : r.Inside quality code (Relies task.jobId stage r.studio))
    (count : r.enqueued = r.overtaken + r.failed + 1) (waiting : r.waiting = [])
    (at' : At (task, .ask q next) stage) (spent : ∀ w ∈ past, Spent r.studio (some task.jobId) w)
    (hreplies : r.studio.Replies crew ⟨q, reply⟩ s) (hgood : GoesWell crew r.studio ⟨q, reply⟩) :
    Law crew quality code base
      { r with
        studio := s, working := past ++ [(task, next reply)]
        overtaken := r.overtaken + (r.overtakes q).toNat } := by
  obtain ⟨stage', hturn, hrest⟩ := at' reply
  obtain ⟨hknown, hstands⟩ := stands_turn hsure hgood hturn hreplies known stands
  have hhas : ∀ id, r.studio.jobs.Has id → s.jobs.Has id := fun _ => Studio.reply_has hreplies
  have hspent : ∀ w ∈ past, Spent s (some task.jobId) w :=
    fun w hmem => (spent w hmem).later hhas fun _ hid => Or.inl hid
  cases hover : r.overtakes q with
  | true =>
      -- the job was let go under the eyes of the submission inside
      obtain ⟨tested, next', hq, hinside⟩ := overtakes_iff.mp hover
      obtain ⟨allowRetry, at', hfollows, hrelies⟩ := inside _ hinside
      obtain ⟨job, rfl, rfl⟩ := doubtful_of_tests hfollows
      obtain rfl : stage' = .complete := complete_of_release hturn stands hq
      have hid : job.id = task.jobId := hrelies.1
      refine .wanted ⟨hknown.order, hknown.working, rfl⟩ ?_ ?_ ?_ waiting ?_
      · exact Nat.le_trans hstands.rendered (Nat.succ_le_succ few)
      · intro hnone
        cases hinside.symm.trans hnone
      · intro p hp
        obtain rfl := Option.some.inj (hinside.symm.trans hp)
        refine ⟨allowRetry, .doubtful job, hfollows, ?_, ?_⟩
        · rw [Begins, hid]
          exact hstands.1
        · intro w hmem
          rw [front, hid]
          rcases List.mem_append.mp hmem with hpast | hlast
          · exact hspent w hpast
          · rw [List.mem_singleton.mp hlast]
            exact .complete hrest
      · simpa [enqueued, Nat.add_right_comm] using count
  | false =>
      refine .taken hknown hstands few ?_ (.worked waiting rfl rfl hrest hspent) count
      intro p hp
      obtain ⟨allowRetry, at', hfollows, hrelies⟩ := inside p hp
      refine ⟨allowRetry, at', hfollows, hrelies.later (video_turn hturn hreplies) ?_⟩
      rintro job rfl - hcomplete
      -- the job would be let go while the submission tests who owns it
      obtain ⟨next', rfl⟩ := tests_of_doubtful hfollows
      have hq : q = .release job.id := by
        rw [hrelies.1]
        exact congrArg Answered.question (released_of_complete hturn stands hcomplete)
      have hovertakes : r.overtakes q = true := overtakes_iff.mpr ⟨job.id, next', hq, hp⟩
      rw [hovertakes] at hover
      cases hover

/-- Spent work overtakes no submission: the job that it lets go is not the one in front. -/
theorem Spent.letsGo {front : Option String} (h : Spent r.studio front (task, .ask q next))
    (hfront : ∀ id next', r.inside = some (.ask (.owns id) next') → front = some id) :
    q = .release task.jobId ∧ r.overtakes q = false ∧ (∀ reply, At (task, next reply) .complete) ∧
      front ≠ some task.jobId := by
  obtain ⟨hq, hrest, hother⟩ := h.asks
  refine ⟨hq, Bool.eq_false_iff.mpr fun hover => ?_, hrest, hother⟩
  obtain ⟨id, next', hrelease, hinside⟩ := overtakes_iff.mp hover
  have hid : id = task.jobId := ServiceQuestion.release.inj (hrelease.symm.trans hq)
  exact hother (hid ▸ hfront id next' hinside)

/-- The law when spent work asks a question, and a submission has to make a new job. -/
theorem Law.workWanted (ready : Ready crew renders r.studio) (few : renders ≤ base + r.overtaken)
    (outside : r.inside = none → r.working = [])
    (inside : r.Inside quality code fun stage =>
      Begins (inputPrint quality code) stage r.studio ∧
        ∀ w ∈ r.working, Spent r.studio (front stage) w)
    (waiting : r.waiting = []) (count : r.enqueued = r.overtaken + r.failed)
    (hworks : r.working[n]? = some (task, .ask q next))
    (hreplies : r.studio.Replies crew ⟨q, reply⟩ s) :
    Law crew quality code base
      { r with
        studio := s, working := r.working.set n (task, next reply)
        overtaken := r.overtaken + (r.overtakes q).toNat } := by
  have hmem := List.mem_of_getElem? hworks
  cases hinside : r.inside with
  | none =>
      rw [outside hinside] at hmem
      cases hmem
  | some p =>
      obtain ⟨allowRetry, stage, hfollows, hbegins, hspent⟩ := inside p hinside
      obtain ⟨rfl, hover, hrest, hother⟩ := (hspent _ hmem).letsGo (by
        intro id next' htests
        obtain rfl := Option.some.inj (hinside.symm.trans htests)
        obtain ⟨job, rfl, rfl⟩ := doubtful_of_tests hfollows
        rfl)
      rw [hover]
      have horder := ready.order.reply hreplies
      have hhas : ∀ id, r.studio.jobs.Has id → s.jobs.Has id := fun _ => Studio.reply_has hreplies
      obtain rfl := (Prod.mk.inj hreplies).2
      refine .wanted ⟨horder, ready.working, ready.rendered⟩ few nofun ?_ waiting count
      · rintro p' ⟨⟩
        exact ⟨allowRetry, stage, hfollows, begins_released hbegins hother,
          spent_set hspent hhas (hrest reply)⟩

/-- The law when spent work asks a question, and the task of a known job was returned. -/
theorem Law.workTaken (hfresh : Function.Injective crew.freshId) {stage : WorkStage}
    (known : Known crew (inputPrint quality code) id r.studio)
    (stands : Stands id renders stage r.studio) (few : renders ≤ base + r.overtaken)
    (inside : r.Inside quality code (Relies id stage r.studio))
    (count : r.enqueued = r.overtaken + r.failed + 1)
    (spent : Spent r.studio (some id) (task, .ask q next))
    (hreplies : r.studio.Replies crew ⟨q, reply⟩ s) {works : List Working}
    (place : Task { r with studio := s, working := works } id stage) :
    Law crew quality code base
      { r with
        studio := s, working := works, overtaken := r.overtaken + (r.overtakes q).toNat } := by
  obtain ⟨rfl, hover, -, hother⟩ := spent.letsGo (by
    intro tested next' hinside
    obtain ⟨allowRetry, stage', hfollows, hrelies⟩ := inside _ hinside
    obtain ⟨job, rfl, rfl⟩ := doubtful_of_tests hfollows
    exact congrArg some hrelies.1.symm)
  rw [hover]
  obtain ⟨hknown, hspares⟩ := known.spared hfresh hreplies (spares_release hother)
  refine .taken hknown (stands.spared hspares) few ?_ (place.congr rfl rfl fun _ h => h) count
  intro p hp
  obtain ⟨allowRetry, stage', hfollows, hrelies⟩ := inside p hp
  exact ⟨allowRetry, stage', hfollows,
    hrelies.later (fun hsettled => ⟨hsettled, hspares.video⟩) fun _ _ hunfinished => hunfinished⟩

/-- **The law when the work at a task asks a question.** -/
theorem Law.work (h : Law crew quality code base r) (hfresh : Function.Injective crew.freshId)
    (hsure : ∀ n call, crew.storeFailure n call = none)
    (hworks : r.working[n]? = some (task, .ask q next))
    (hreplies : r.studio.Replies crew ⟨q, reply⟩ s) (hgood : GoesWell crew r.studio ⟨q, reply⟩) :
    Law crew quality code base
      { r with
        studio := s, working := r.working.set n (task, next reply)
        overtaken := r.overtaken + (r.overtakes q).toNat } := by
  have hmem := List.mem_of_getElem? hworks
  have hhas : ∀ id, r.studio.jobs.Has id → s.jobs.Has id := fun _ => Studio.reply_has hreplies
  cases h with
  | wanted ready few outside inside waiting count =>
      exact Law.workWanted ready few (fun hnone => (outside hnone).2.1) inside waiting count hworks
        hreplies
  | @granted renders job granted inside known stands few spent waiting count =>
      obtain ⟨rfl, hover, hrest, hother⟩ := (spent _ hmem).letsGo (by
        intro id next' htests
        cases inside.symm.trans htests)
      rw [hover]
      obtain ⟨hknown, hspares⟩ := known.spared hfresh hreplies (spares_release hother)
      exact .granted inside hknown (stands.spared hspares) few
        (spent_set spent hhas (hrest reply)) waiting count
  | @taken renders id stage known stands few inside place count =>
      cases place with
      | waits waiting own spent =>
          have hw := (spent _ hmem).asks.2.1 reply
          exact Law.workTaken hfresh known stands few inside count (spent _ hmem) hreplies
            (.waits waiting own (spent_set spent hhas hw))
      | @worked past w _ waiting working own stands' spent' =>
          rw [working] at hworks
          rcases Nat.lt_or_ge n past.length with hpast | hlast
          · -- one of the works that are spent
            rw [List.getElem?_append_left hpast] at hworks
            have hspent := spent' _ (List.mem_of_getElem? hworks)
            have hset : r.working.set n (task, next reply) = past.set n (task, next reply) ++ [w] := by
              rw [working, List.set_append_left n _ hpast]
            exact Law.workTaken hfresh known stands few inside count hspent hreplies
              (.worked waiting hset own stands' (spent_set spent' hhas (hspent.asks.2.1 reply)))
          · -- the work at the task of the known job
            have hn : n = past.length := by
              have hbound := (List.getElem?_eq_some_iff.mp hworks).1
              rw [List.length_append, List.length_singleton] at hbound
              omega
            subst hn
            obtain rfl : w = (task, .ask q next) := by simpa using hworks
            subst own
            rw [working, List.set_append_right _ _ (Nat.le_refl _), Nat.sub_self]
            exact Law.workKnown hsure known stands few inside count waiting stands' spent' hreplies
              hgood

end Work

/-- **Every move keeps the law.** -/
theorem Law.next (h : Law crew quality code base r) (hfresh : Function.Injective crew.freshId)
    (hsure : ∀ n call, crew.storeFailure n call = none) (hsmooth : r.isSmooth crew move = true)
    (hmove : r.move? crew maxRetries quality code move = some r') :
    Law crew quality code base r' := by
  cases step_of_move? hmove with
  | come allowRetry free => exact h.come free allowRetry
  | ask inside replies exchange =>
      exact h.ask hfresh hsure inside replies (goesWell_of_smooth hsmooth exchange)
  | leave inside => exact h.leave inside
  | take waits => exact h.take maxRetries waits
  | work works replies exchange =>
      exact h.work hfresh hsure works replies (goesWell_of_smooth hsmooth exchange)

/-- **The law holds along every rush.** -/
theorem Law.play (hfresh : Function.Injective crew.freshId)
    (hsure : ∀ n call, crew.storeFailure n call = none) {moves : List RushMove}
    (h : Law crew quality code base r)
    (hplay : r.play? crew maxRetries quality code moves = some r') :
    Law crew quality code base r' := by
  induction moves generalizing r with
  | nil =>
      obtain rfl : r = r' := Option.some.inj hplay
      exact h
  | cons move moves ih =>
      rw [play?] at hplay
      split at hplay
      · next hsmooth =>
          obtain ⟨middle, hmove, hrest⟩ := Option.bind_eq_some_iff.mp hplay
          exact ih (h.next hfresh hsure hsmooth hmove) hrest
      · cases hplay

/-- What the law says of the tasks that were returned. -/
theorem Law.enqueued (h : Law crew quality code base r) :
    r.enqueued ≤ r.overtaken + r.failed + 1 ∧
      (r.inside = none → (1 < r.enqueued ↔ 0 < r.overtaken + r.failed) ∧
        (r.answers ≠ [] → r.enqueued = r.overtaken + r.failed + 1)) := by
  cases h with
  | wanted ready few outside inside waiting count =>
      refine ⟨Nat.le_succ_of_le (Nat.le_of_eq count), fun hnone => ?_⟩
      obtain ⟨hanswers, -, -⟩ := outside hnone
      have hzero : r.enqueued = 0 := by simp [Rush.enqueued, hanswers]
      exact ⟨by omega, fun hsome => absurd hanswers hsome⟩
  | granted inside known stands few spent waiting count =>
      refine ⟨Nat.le_succ_of_le (Nat.le_of_eq count), fun hnone => ?_⟩
      cases inside.symm.trans hnone
  | taken known stands few inside task count =>
      exact ⟨Nat.le_of_eq count, fun _ => ⟨by omega, fun _ => count⟩⟩

/-- What the law says of the calls of the renderer. -/
theorem Law.rendered (h : Law crew quality code base r) :
    r.studio.record.rendered.length ≤ base + r.overtaken + 1 := by
  cases h with
  | wanted ready few outside inside waiting count => exact ready.rendered ▸ Nat.le_succ_of_le few
  | granted inside known stands few spent waiting count =>
      exact Nat.le_trans stands.rendered (Nat.succ_le_succ few)
  | taken known stands few inside task count =>
      exact Nat.le_trans stands.rendered (Nat.succ_le_succ few)

end Rush

/-- **When a second task is returned.**  Take a studio with a working cache, in which nothing
is known of an input, and a job store whose calls do not go wrong.  The input is submitted any
number of times, the tasks that are returned are worked off, and all of them ask their
questions in any order, while stores and renderer do what they are asked for.

* No more than one task is returned, and one more for each submission that was overtaken, and
  one more for each that read that the known job had failed.
* When no submission is inside, a second task was returned exactly if one of these happened;
  and if there is an answer at all, there are exactly so many tasks.
* The renderer is called no more than once, and once more for each submission that was
  overtaken. -/
theorem rush_enqueues_overtaken {crew : Crew} {maxRetries : Nat} {quality : Quality}
    {code : String} {start : Studio} (hfresh : Function.Injective crew.freshId)
    (hsure : ∀ n call, crew.storeFailure n call = none) (horder : Studio.IdsInOrder crew start)
    (hworking : start.cache.store.refusal = none)
    (hunknown : start.cache.remembered? .render (inputPrint quality code) = none)
    {moves : List RushMove} {r : Rush}
    (hplay : Rush.play? crew maxRetries quality code { studio := start } moves = some r) :
    r.enqueued ≤ r.overtaken + r.failed + 1 ∧
      (r.inside = none → (1 < r.enqueued ↔ 0 < r.overtaken + r.failed) ∧
        (r.answers ≠ [] → r.enqueued = r.overtaken + r.failed + 1)) ∧
      r.studio.record.rendered.length ≤ start.record.rendered.length + r.overtaken + 1 := by
  have hfirst : Rush.Law crew quality code start.record.rendered.length { studio := start } :=
    .wanted ⟨horder, hworking, rfl⟩ (Nat.le_refl _) (fun _ => ⟨rfl, rfl, hunknown⟩) nofun rfl rfl
  have hlast := hfirst.play hfresh hsure hplay
  exact ⟨hlast.enqueued.1, hlast.enqueued.2, hlast.rendered⟩

/-- The scene is submitted, and while its task is worked off once more; a third submission
comes when the work is over. -/
def rushMoves : List RushMove :=
  [.come false, .ask, .ask, .ask, .ask, .leave, .take 0, .work 0, .come true, .ask, .work 0, .ask,
    .work 0, .ask, .work 0, .leave, .work 0, .work 0, .work 0, .come false, .ask, .ask, .ask, .ask,
    .ask, .ask, .leave]

/-- A submission looks at the record of a job; before it tests who owns the job, the work at
the task of the job comes to its end.  The second task is worked off as well. -/
def overtakenMoves : List RushMove :=
  [.come false, .ask, .ask, .ask, .ask, .leave, .take 0, .work 0, .work 0, .work 0, .work 0,
    .work 0, .come false, .ask, .ask, .work 0, .work 0, .ask, .ask, .ask, .ask, .leave, .take 0,
    .work 1, .work 1, .work 1, .work 1, .work 1, .work 1, .work 1]

/-- What the two rehearsals with the scene come to: three answers in the first one, in which
nothing goes wrong, and two tasks and two renders in the other one, in which one submission is
overtaken. -/
theorem film_rushes :
    (∃ r, Rush.play? filmCrew 0 .low emptyScene { studio := filmStudio } rushMoves = some r ∧
        r.inside.isNone ∧ r.answers.length = 3 ∧ r.overtaken = 0 ∧ r.failed = 0) ∧
      ∃ r, Rush.play? filmCrew 0 .low emptyScene { studio := filmStudio } overtakenMoves = some r ∧
        r.overtaken = 1 ∧ r.failed = 0 ∧ r.enqueued = 2 ∧ r.studio.record.rendered.length = 2 := by
  -- one evaluation of both, as they take the same digest
  have hrushes : ((Rush.play? filmCrew 0 .low emptyScene { studio := filmStudio } rushMoves).any
        fun r => r.inside.isNone && (r.answers.length == 3 && (r.overtaken == 0 && r.failed == 0))) =
          true ∧
      ((Rush.play? filmCrew 0 .low emptyScene { studio := filmStudio } overtakenMoves).any fun r =>
        r.overtaken == 1 && (r.failed == 0 && (r.enqueued == 2 &&
          r.studio.record.rendered.length == 2))) = true := by
    decide +kernel
  simpa only [Option.any_eq_true, Bool.and_eq_true, beq_iff_eq] using hrushes

/-- In the rehearsal three submissions get their answers, and exactly one of them a task. -/
theorem rehearsed_rush_enqueues_once :
    ∃ r, Rush.play? filmCrew 0 .low emptyScene { studio := filmStudio } rushMoves = some r ∧
      r.answers.length = 3 ∧ r.enqueued = 1 ∧ r.studio.record.rendered.length ≤ 1 := by
  obtain ⟨⟨r, hplay, hnone, hlength, hovertaken, hfailed⟩, -⟩ := film_rushes
  obtain ⟨-, hexact, hrendered⟩ := rush_enqueues_overtaken letterId_injective (fun _ _ => rfl)
    filmStudio_isNew.idsInOrder rfl (filmStudio_isNew.remembered? _ _) hplay
  have hanswers : r.answers ≠ [] := List.ne_nil_of_length_pos (by omega)
  have hone := (hexact (Option.isNone_iff_eq_none.mp hnone)).2 hanswers
  rw [hovertaken, hfailed] at hone
  rw [hovertaken] at hrendered
  exact ⟨r, hplay, hlength, hone, hrendered⟩

/-- **An overtaken submission renders the input a second time.**  In a new studio whose stores
do not fail, two submissions of the same input return a task each, although no job fails and
every render is successful: the first job is let go between two questions of the second
submission.  Then the input is rendered twice. -/
theorem rush_enqueues_twice :
    filmStudio.IsNew ∧ filmStudio.cache.store.refusal = none ∧
      (∀ n call, filmCrew.storeFailure n call = none) ∧ Function.Injective filmCrew.freshId ∧
      ∃ r, Rush.play? filmCrew 0 .low emptyScene { studio := filmStudio } overtakenMoves = some r ∧
        r.overtaken = 1 ∧ r.failed = 0 ∧ r.enqueued = 2 ∧ r.studio.record.rendered.length = 2 :=
  ⟨filmStudio_isNew, rfl, fun _ _ => rfl, letterId_injective, film_rushes.2⟩

end SceneRender
