import SceneRender.Proofs.Pipeline.Decision
import SceneRender.Proofs.Pipeline.Provenance

/-!
# Cached videos are the right ones

The video of a finished job that a submission returned was left by a render that took
place while a task with the same quality and the same code was worked off.  No exchange
does harm to what is known of the videos; deleting a video and starting anew only take
away.  `cached_videos_right` is the result for a whole chronicle.
-/

namespace SceneRender

open Plan Pipeline ServiceExchange

/-! ## Whole chronicles -/

section Chronicles

variable {crew : Crew} {start s s' : Studio} {past : List Entry}

/-- Only tasks that a submission returned are worked off. -/
def ReturnsTasks (past : List Entry) : Deed → Prop
  | .processed _ task _ => ∃ e ∈ past, e.deed.enqueued? = some task
  | .submitted .. | .abandoned .. | .deleted _ | .restarted => True

/-- No two of the texts that were submitted have the same digest. -/
def CollisionFree (past : List Entry) : Prop :=
  ∀ e ∈ past, ∀ text, e.deed.text? = some text → NoCollision past text

/-- Without collisions in the whole past there were none before its last entry. -/
theorem CollisionFree.tail {e : Entry} (h : CollisionFree (e :: past)) : CollisionFree past :=
  fun e' he' text htext e'' he'' =>
    h e' (List.mem_cons_of_mem _ he') text htext e'' (List.mem_cons_of_mem _ he'')

/-- A submission adds the job of its answer to those that were returned. -/
theorem returned_submitted {code : String} {quality : Quality} {allowRetry : Bool}
    {answer : Except PipelineFault Submission} (id : String) (q : Quality) (c : String) :
    Returned (⟨.submitted code quality allowRetry answer, s, s'⟩ :: past) id q c ↔
      OriginAfter (Returned past) quality code answer id q c := by
  constructor
  · rintro ⟨e, he, allow, submission, hdeed, hid⟩
    rcases List.mem_cons.mp he with rfl | hold
    · cases hdeed
      exact Or.inr ⟨⟨submission, rfl, hid⟩, rfl, rfl⟩
    · exact Or.inl ⟨e, hold, allow, submission, hdeed, hid⟩
  · rintro (⟨e, he, hreturned⟩ | ⟨⟨submission, rfl, hid⟩, rfl, rfl⟩)
    · exact ⟨e, List.mem_cons_of_mem _ he, hreturned⟩
    · exact ⟨_, List.mem_cons_self .., allowRetry, submission, rfl, hid⟩

/-- Every other deed returns no job. -/
theorem returned_other {deed : Deed} (hdeed : deed.text? = none) (id : String) (q : Quality)
    (c : String) : Returned (⟨deed, s, s'⟩ :: past) id q c ↔ Returned past id q c := by
  constructor
  · rintro ⟨e, he, allow, submission, hsubmitted, hid⟩
    rcases List.mem_cons.mp he with rfl | hold
    · rw [show deed = _ from hsubmitted] at hdeed
      cases hdeed
    · exact ⟨e, hold, allow, submission, hsubmitted, hid⟩
  · rintro ⟨e, he, hreturned⟩
    exact ⟨e, List.mem_cons_of_mem _ he, hreturned⟩

/-- A task that a submission returned has the input for which its job was returned. -/
theorem returned_of_task {exchange : Studio → ServiceExchange → Studio → Prop}
    {allowed : List Entry → Deed → Prop} {task : RenderTask}
    (h : Chronicle exchange allowed start past s) (htask : ∃ e ∈ past, e.deed.enqueued? = some task) :
    Returned past task.jobId task.quality task.code := by
  obtain ⟨e, he, htask⟩ := htask
  obtain ⟨allowRetry, job, hid, hdeed⟩ := h.submitted_of_enqueued he htask
  exact ⟨e, he, allowRetry, _, hdeed, hid⟩

/-- What was filmed for an input stays so. -/
theorem FilmedFor.later {quality : Quality} {code : String} {content : ByteArray}
    (h : FilmedFor crew past quality code content) (e : Entry) :
    FilmedFor crew (e :: past) quality code content := by
  obtain ⟨e', he', hfilmed⟩ := h
  exact ⟨e', List.mem_cons_of_mem _ he', hfilmed⟩

/-- Deleting a video does no harm. -/
theorem Provenance.delete {origin : String → Quality → String → Prop}
    {shown : Quality → String → ByteArray → Prop} (h : Provenance crew origin shown s)
    (id : String) :
    Provenance crew origin shown { s with disk := (s.videos.delete id s.disk).2 } := by
  refine h.onDisk _ ?_
  intro id' quality code hid job hjob hdone content hfile
  rw [ArtifactStore.place_steady (s.videos.steady_delete s.disk id)] at hfile
  exact h.videos id' quality code hid job hjob hdone content (ArtifactStore.fileAt_delete hfile)

/-- Giving a job up does no harm. -/
theorem provenance_abandonTurn {origin : String → Quality → String → Prop}
    {shown : Quality → String → ByteArray → Prop} {id reason : String}
    {stage stage' : AbandonStage} {e : ServiceExchange}
    (hturn : AbandonTurn id reason stage e stage') (hserves : s.Serves crew e s')
    (h : Provenance crew origin shown s) : Provenance crew origin shown s' := by
  obtain ⟨refusal, -, hreply⟩ := hserves
  cases hturn with
  | released =>
      cases hreply
      exact h.congr rfl rfl rfl rfl rfl
  | ended reply => exact h.update_other hreply ⟨_, rfl, nofun⟩

/-- **What is known of the videos holds after every chronicle.** -/
theorem provenance_chronicle (hstart : start.IsNew) (hfresh : Function.Injective crew.freshId)
    (hdistinct : CollisionFree past)
    (h : Chronicle (Studio.Serves crew) ReturnsTasks start past s) :
    Provenance crew (Returned past) (FilmedFor crew past) s := by
  induction h with
  | start =>
      have hnone : ∀ id quality code, ¬ Returned [] id quality code := by
        rintro id quality code ⟨e, he, -⟩
        cases he
      refine ⟨hstart.idsInOrder, fun _ _ _ hid => absurd hid (hnone _ _ _),
        fun _ _ _ _ _ hid => absurd hid (hnone _ _ _), ?_,
        fun _ _ _ hid => absurd hid (hnone _ _ _)⟩
      intro print id hid
      rw [hstart.remembered?] at hid
      cases hid
  | @next past s s' deed before allows takes ih =>
      have hs := ih hdistinct.tail
      have hlater : ∀ quality code content, FilmedFor crew past quality code content →
          FilmedFor crew (⟨deed, s, s'⟩ :: past) quality code content :=
        fun _ _ _ hfilmed => hfilmed.later _
      cases deed with
      | submitted code quality allowRetry answer =>
          have hknown : ∀ id q c, Returned past id q c →
              inputPrint q c = inputPrint quality code → q = quality ∧ c = code := by
            rintro id q c ⟨e, he, allow, submission, hdeed, -⟩ hprint
            have hnone := hdistinct _ (List.mem_cons_self ..) _ rfl
            exact hnone.input_eq (List.mem_cons_of_mem _ he) hdeed hprint
          have hrun : Runs (Studio.Serves crew) (submit code quality allowRetry).run s answer s' :=
            takes
          have hend : ∃ stage', SubmitEnd stage' answer ∧
              SourceFact crew (Returned past) (FilmedFor crew past) quality code stage' s' :=
            (follows_submit code quality allowRetry).run hrun hs (sourceFact_turn hfresh hknown)
          obtain ⟨_, rfl, hs'⟩ := hend
          exact (Provenance.mono hs' hlater).origin_congr fun id q c => returned_submitted id q c
      | processed maxRetries task answer =>
          have hown : Returned past task.jobId task.quality task.code := returned_of_task before allows
          have hrun : Runs (Studio.Serves crew) (process maxRetries task) s answer s' := takes
          have hfirst : Filming crew (Returned past) (FilmedFor crew past) s task s :=
            ⟨hs.mono fun _ _ _ => Or.inl, Nat.le_refl _⟩
          have hend : ∃ stage', stage' = WorkStage.complete ∧
              FilmFact crew (Returned past) (FilmedFor crew past) s task stage' s' :=
            (follows_process maxRetries task).run hrun hfirst (filmFact_turn hown)
          obtain ⟨_, rfl, hs'⟩ := hend
          refine (hs'.provenance.mono ?_).origin_congr (returned_other rfl)
          rintro quality code content (hold | ⟨hquality, hcode, hfilmed⟩)
          · exact hold.later _
          · exact ⟨_, List.mem_cons_self .., maxRetries, task, answer, rfl, hquality, hcode,
              hfilmed⟩
      | abandoned id reason answer =>
          have hrun : Runs (Studio.Serves crew) (abandon id reason).run s answer s' := takes
          have hend : ∃ stage', stage' = AbandonStage.complete ∧
              Provenance crew (Returned past) (FilmedFor crew past) s' :=
            (follows_abandon id reason).run hrun hs provenance_abandonTurn
          obtain ⟨-, -, hs'⟩ := hend
          exact (hs'.mono hlater).origin_congr (returned_other rfl)
      | deleted id =>
          obtain rfl : s' = { s with disk := (s.videos.delete id s.disk).2 } := takes
          exact ((hs.delete id).mono hlater).origin_congr (returned_other rfl)
      | restarted =>
          obtain rfl : s' = { s with owned := [] } := takes
          have hs' : Provenance crew (Returned past) (FilmedFor crew past) { s with owned := [] } :=
            hs.congr rfl rfl rfl rfl rfl
          exact (hs'.mono hlater).origin_congr (returned_other rfl)

/-- **A video that is found was filmed for its input.**  Take a new studio and any chronicle
of it: code is submitted, tasks that submissions returned are worked off, any number of
times, jobs are given up, videos are deleted, and the service is started anew; the calls
of the job store and of the cache may go wrong as they like, the renderer reports only
fresh paths outside the folder of the stored videos, and different inputs have different
digests.  If a submission returned a job, and the job is done and has a video, then a
task with the same quality and the same code was worked off, and a render that took place
meanwhile left this very video. -/
theorem cached_videos_right (hstart : start.IsNew) (hfresh : Function.Injective crew.freshId)
    (hdistinct : CollisionFree past)
    (h : Chronicle (Studio.Serves crew) ReturnsTasks start past s)
    {code : String} {quality : Quality} {allowRetry : Bool} {submission : Submission}
    (hreturned : ∃ e ∈ past, e.deed = .submitted code quality allowRetry (.ok submission))
    {job : Job} (hjob : s.jobs.get submission.job.id = .ok (some job)) (hdone : job.status = .done)
    {content : ByteArray}
    (hvideo : s.videos.video? s.disk submission.job.id = some content) :
    ∃ e ∈ past, ∃ maxRetries task answer,
      e.deed = .processed maxRetries task answer ∧ task.quality = quality ∧ task.code = code ∧
        Studio.Filmed crew e.before e.after task content := by
  have hs := provenance_chronicle hstart hfresh hdistinct h
  obtain ⟨e, he, hdeed⟩ := hreturned
  exact hs.videos submission.job.id quality code ⟨e, he, allowRetry, submission, hdeed, rfl⟩
    job.undated (JobStore.record?_of_get hjob) hdone content
    (ArtifactStore.fileAt_of_video? hvideo)

/-- If all submissions are of one input, there are no two texts. -/
theorem collisionFree_of_one (one : String)
    (h : ∀ e ∈ past, ∀ text, e.deed.text? = some text → text = one) : CollisionFree past := by
  intro e he text htext e' he' other hother _
  rw [h e he text htext, h e' he' other hother]

end Chronicles

/-- After the rehearsal the scene is submitted once more. -/
def copiedPast : List Entry :=
  ⟨.submitted emptyScene .low false (filmSubmitted filmedStudio).1, filmedStudio,
    (filmSubmitted filmedStudio).2⟩ :: filmPast

/-- The second submission is answered with a new job, and the video of this job was filmed
for the task of the first one. -/
theorem copied_video_right :
    ∃ copy content, (filmSubmitted filmedStudio).1 = .ok (.cached copy) ∧ copy.id = "aa" ∧
      (filmSubmitted filmedStudio).2.videos.video? (filmSubmitted filmedStudio).2.disk copy.id =
        some content ∧
      ∃ e ∈ copiedPast, ∃ maxRetries task answer,
        e.deed = .processed maxRetries task answer ∧ task.quality = .low ∧
          task.code = emptyScene ∧ Studio.Filmed filmCrew e.before e.after task content := by
  have hserves : ∀ (s : Studio) (e : ServiceExchange) (s' : Studio), s.keepsPromise filmCrew e.question = true →
      s.Replies filmCrew e s' → s.Serves filmCrew e s' := fun _ _ _ => Studio.serves_of_replies
  have hfilmed : Chronicle (Studio.Serves filmCrew) ReturnsTasks filmStudio filmPast filmedStudio :=
    filmPast_chronicle hserves trivial ⟨_, List.mem_cons_self .., by decide +kernel⟩
  obtain ⟨-, hpromise, ⟨copy, hanswer, hid⟩, ⟨record, hrecord, hdone⟩, content, hcontent⟩ :=
    film_resubmitted
  have hcopied : Chronicle (Studio.Serves filmCrew) ReturnsTasks filmStudio copiedPast
      (filmSubmitted filmedStudio).2 :=
    .next hfilmed trivial
      ((runs_run_of_holdsAlong hpromise).mono fun s e s' h => hserves s e s' h.1 h.2)
  have hone : CollisionFree copiedPast := by
    refine collisionFree_of_one (renderCanonical .low emptyScene) ?_
    intro e he text htext
    rcases List.mem_cons.mp he with rfl | hold
    · exact (Option.some.inj htext).symm
    · exact text_of_filmPast hold htext
  have hcopy := answer_of_copyAnswered? hanswer
  obtain ⟨job, hjob, rfl⟩ := JobStore.get_of_record? hrecord
  rw [← hid] at hjob hcontent
  have hreturned : ∃ e ∈ copiedPast,
      e.deed = .submitted emptyScene .low false (.ok (.cached copy)) :=
    ⟨_, List.mem_cons_self .., by rw [hcopy]⟩
  exact ⟨copy, content, hcopy, hid, hcontent, cached_videos_right filmStudio_isNew
    letterId_injective hone hcopied hreturned hjob hdone hcontent⟩

end SceneRender
