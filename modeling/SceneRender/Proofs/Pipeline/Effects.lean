import SceneRender.Pipeline.Studio
import SceneRender.Proofs.Job.Records
import SceneRender.Proofs.Pipeline.Steps

/-!
# What an exchange changes

Each question to a studio changes a few of its parts and leaves the others as they are.
Only three need an argument: making a job and updating one, which may go wrong without a
trace, and rendering, which may or may not leave a video.  Everything else can be read
off the definition of `Studio.reply`.
-/

namespace SceneRender

open Pipeline

/-! ## Job stores -/

/-- What becomes of a store when a job is to be made under an id. -/
inductive JobStore.Creates (store : JobStore) (id : String) :
    Except StoreFault Job → JobStore → Prop
  | refused (fault : StoreFault) : Creates store id (.error fault) store
  | made {job : Job} {store' : JobStore} (fresh : job.undated = .fresh id .epoch)
      (has : store'.Has id) (record : ∀ j, store'.record? id = some j → j = .fresh id .epoch)
      (others : ∀ id', id' ≠ id → store'.get id' = store.get id') :
      Creates store id (.ok job) store'

/-- What becomes of a store when a job is to be updated. -/
inductive JobStore.Updates (store : JobStore) (id : String) (u : JobUpdate) :
    JobReply → JobStore → Prop
  | unkept {reply : JobReply} (unkept : ¬ Kept reply) : Updates store id u reply store
  | kept {old job : Job} {store' : JobStore} (found : store.record? id = some old)
      (new : job.undated = old.apply u .epoch) (has : store'.Has id)
      (record : ∀ j, store'.record? id = some j → j = old.apply u .epoch)
      (others : ∀ id', id' ≠ id → store'.get id' = store.get id') :
      Updates store id u (.ok (some job)) store'

/-- What a store does to make a job is a making. -/
theorem JobStore.creates_create (store : JobStore) (id : String) (now : Timestamp) :
    store.Creates id (store.create id now).1 (store.create id now).2 := by
  rcases h : (store.create id now).1 with fault | job
  · rw [create_eq_error h]
    exact .refused fault
  · obtain ⟨rfl, has, record, others⟩ := create_eq_ok h
    exact .made rfl has record others

/-- What a store does to update a job is an update. -/
theorem JobStore.updates_update (store : JobStore) (id : String) (u : JobUpdate)
    (now : Timestamp) :
    store.Updates id u (store.update id u now).1 (store.update id u now).2 := by
  by_cases kept : Kept (store.update id u now).1
  · obtain ⟨job, h⟩ := kept
    obtain ⟨old, hold, rfl, has, record, others⟩ := update_eq_ok h
    rw [h]
    exact .kept (record?_of_get hold) (Job.undated_apply old u now) has record others
  · have hself : (store.update id u now).2 = store :=
      update_eq_self fun job h => kept ⟨job, h⟩
    rw [hself]
    exact .unkept kept

namespace JobStore

variable {store store' : JobStore} {id id' : String} {u : JobUpdate} {job : Job}

/-- Nothing that is there goes away. -/
theorem Creates.has {r : Except StoreFault Job} (h : store.Creates id r store')
    (hid : store.Has id') : store'.Has id' := by
  cases h with
  | refused fault => exact hid
  | made fresh has record others =>
      by_cases heq : id' = id
      · rw [heq]
        exact has
      · exact (has_congr (others id' heq)).mpr hid

/-- What is there after the making of a job is the new job or was there before. -/
theorem Creates.has_cases {r : Except StoreFault Job} (h : store.Creates id r store')
    (hid : store'.Has id') : store.Has id' ∨ id' = id := by
  cases h with
  | refused fault => exact Or.inl hid
  | made fresh has record others =>
      by_cases heq : id' = id
      · exact Or.inr heq
      · exact Or.inl ((has_congr (others id' heq)).mp hid)

/-- An update brings nothing and takes nothing away. -/
theorem Updates.has_iff {reply : JobReply} (h : store.Updates id u reply store') :
    store'.Has id' ↔ store.Has id' := by
  cases h with
  | unkept => exact Iff.rfl
  | kept found new has record others =>
      by_cases heq : id' = id
      · rw [heq]
        exact iff_of_true has (has_of_record? found)
      · exact has_congr (others id' heq)

/-- A record after the making of a job is fresh or was there before. -/
theorem Creates.record_cases {r : Except StoreFault Job} (h : store.Creates id r store')
    (hjob : store'.record? id' = some job) :
    store.record? id' = some job ∨ id' = id ∧ job = .fresh id .epoch := by
  cases h with
  | refused fault => exact Or.inl hjob
  | made fresh has record others =>
      by_cases heq : id' = id
      · rw [heq] at hjob
        exact Or.inr ⟨heq, record job hjob⟩
      · rw [record?_congr (others id' heq)] at hjob
        exact Or.inl hjob

/-- An update that answers with a record found one, and answers with the update of it. -/
theorem Updates.answer (h : store.Updates id u (.ok (some job)) store') :
    ∃ old, store.record? id = some old ∧ job.undated = old.apply u .epoch := by
  cases h with
  | unkept unkept => exact absurd ⟨job, rfl⟩ unkept
  | kept found new has record others => exact ⟨_, found, new⟩

/-- A record after an update is the old one with the update or was there before. -/
theorem Updates.record_cases {reply : JobReply} (h : store.Updates id u reply store')
    (hjob : store'.record? id' = some job) :
    store.record? id' = some job ∨
      id' = id ∧ Kept reply ∧ ∃ old, store.record? id = some old ∧ job = old.apply u .epoch := by
  cases h with
  | unkept => exact Or.inl hjob
  | kept found new has record others =>
      by_cases heq : id' = id
      · rw [heq] at hjob
        exact Or.inr ⟨heq, ⟨_, rfl⟩, _, found, record job hjob⟩
      · rw [record?_congr (others id' heq)] at hjob
        exact Or.inl hjob

end JobStore

/-! ## The studio -/

/-- Does a question leave the cache and the owned jobs alone? -/
def ServiceQuestion.isQuiet : ServiceQuestion → Bool
  | .remember .. | .claim _ | .release _ => false
  | _ => true

namespace Studio

variable {crew : Crew} {s s' : Studio}

/-- Looking a job up changes nothing but a count. -/
theorem getJob_eq {id : String} {r : JobReply} (h : s.getJob crew id = (r, s')) :
    (∃ n, s' = { s with counts.gets := n }) ∧
      ∀ job, r = .ok (some job) → s.jobs.get id = .ok (some job) := by
  rw [getJob] at h
  rcases hfail : crew.storeFailure s.counts.gets (.get id) with _ | fault | _ <;>
    simp only [hfail] at h <;> cases h
  · exact ⟨⟨_, rfl⟩, fun job hjob => hjob⟩
  · exact ⟨⟨_, rfl⟩, nofun⟩
  · exact ⟨⟨_, rfl⟩, nofun⟩

/-- Updating a job changes its record, if the store finds it. -/
theorem updateJob_eq {id : String} {u : JobUpdate} {r : JobReply}
    (h : s.updateJob crew id u = (r, s')) :
    ∃ jobs counts record, s' = { s with jobs, counts, record } ∧
      counts.made = s.counts.made ∧ record.rendered = s.record.rendered ∧
      s.jobs.Updates id u r jobs := by
  rw [updateJob] at h
  rcases hfail : crew.storeFailure s.counts.updates (.update id u) with _ | fault | _ <;>
    simp only [hfail] at h
  · have hupdates := s.jobs.updates_update id u (crew.now s.counts.readings)
    rcases hu : s.jobs.update id u (crew.now s.counts.readings) with ⟨fault | _ | job, jobs⟩ <;>
      rw [hu] at hupdates <;> simp only [hu] at h <;> cases h
    · exact ⟨_, _, _, rfl, rfl, rfl, hupdates⟩
    · exact ⟨_, _, _, rfl, rfl, rfl, hupdates⟩
    · exact ⟨_, _, _, rfl, rfl, rfl, hupdates⟩
  · cases h
    exact ⟨_, _, _, rfl, rfl, rfl, .unkept nofun⟩
  · cases h
    exact ⟨_, _, _, rfl, rfl, rfl, .unkept nofun⟩

/-- Making a job adds a fresh record under the next fresh id, or goes wrong. -/
theorem createJob_eq {r : Except StoreFault Job} (h : s.createJob crew = (r, s')) :
    ∃ jobs counts record, s' = { s with jobs, counts, record } ∧
      record.rendered = s.record.rendered ∧ s.counts.made ≤ counts.made ∧
      (∀ job, r = .ok job → counts.made = s.counts.made + 1) ∧
      s.jobs.Creates (crew.freshId s.counts.made) r jobs := by
  have hcreates := s.jobs.creates_create (crew.freshId s.counts.made) (crew.now s.counts.readings)
  rw [createJob] at h
  rcases hc : s.jobs.create (crew.freshId s.counts.made) (crew.now s.counts.readings)
    with ⟨fault | job, jobs⟩ <;> rw [hc] at hcreates
  · rcases hfail : crew.storeFailure s.counts.creates .create with _ | fault' | _ <;>
      simp only [hfail, hc] at h <;> cases h
    · exact ⟨_, _, _, rfl, rfl, Nat.le_succ _, nofun, hcreates⟩
    · exact ⟨_, _, _, rfl, rfl, Nat.le_refl _, nofun, .refused fault'⟩
    · exact ⟨_, _, _, rfl, rfl, Nat.le_succ _, nofun, hcreates⟩
  · rcases hfail : crew.storeFailure s.counts.creates .create with _ | fault' | _ <;>
      simp only [hfail, hc] at h <;> cases h
    · exact ⟨_, _, _, rfl, rfl, Nat.le_succ _, fun _ _ => rfl, hcreates⟩
    · exact ⟨_, _, _, rfl, rfl, Nat.le_refl _, nofun, .refused fault'⟩
    · exact ⟨_, _, _, rfl, rfl, Nat.le_succ _, fun _ _ => rfl, hcreates⟩

/-- What the renderer leaves behind at the next call. -/
def nextRendering (crew : Crew) (s : Studio) (id code : String) (quality : Quality) : Rendering :=
  crew.render s.record.rendered.length id code quality

/-- Rendering notes the call and writes at most the video that the renderer leaves. -/
theorem render_eq {id code : String} {quality : Quality} {r : RenderOutcome}
    (h : s.render crew id code quality = (r, s')) :
    r = (s.nextRendering crew id code quality).outcome ∧
      ∃ disk, s' = { s with
          disk, record.rendered := (id, code, quality) :: s.record.rendered } ∧
        (disk = s.disk ∨ ∃ path content,
          s.nextRendering crew id code quality = .video path (some content) ∧
            s.disk.write path content = .ok disk) := by
  rw [render] at h
  rw [nextRendering]
  rcases hr : crew.render s.record.rendered.length id code quality
    with ⟨path, _ | content⟩ | _ | diagnostic <;> simp only [hr] at h
  · cases h
    exact ⟨rfl, _, rfl, Or.inl rfl⟩
  · rcases hwrite : s.disk.write path content with fault | disk <;> simp only [hwrite] at h <;>
      cases h
    · exact ⟨rfl, _, rfl, Or.inl rfl⟩
    · exact ⟨rfl, _, rfl, Or.inr ⟨path, content, rfl, hwrite⟩⟩
  · cases h
    exact ⟨rfl, _, rfl, Or.inl rfl⟩
  · cases h
    exact ⟨rfl, _, rfl, Or.inl rfl⟩

/-! ## Sure calls

Unless the crew lets a call of the job store go wrong, only what is not there is missing. -/

section Sure

variable (hsure : ∀ n call, crew.storeFailure n call = none)

include hsure

/-- A job that was said to be missing is not there. -/
theorem getJob_missing {id : String} (h : s.getJob crew id = (.ok none, s')) :
    ¬ s.jobs.Has id := by
  rw [getJob] at h
  simp only [hsure] at h
  exact fun hid => hid (Prod.mk.inj h).1

/-- A job that was said to be missing at an update is not there. -/
theorem updateJob_missing {id : String} {u : JobUpdate}
    (h : s.updateJob crew id u = (.ok none, s')) : ¬ s.jobs.Has id := by
  rw [updateJob] at h
  simp only [hsure] at h
  rcases hu : s.jobs.update id u (crew.now s.counts.readings) with ⟨fault | _ | job, jobs⟩ <;>
    simp only [hu] at h <;> cases h
  exact JobStore.not_has_of_update (congrArg Prod.fst hu)

end Sure

/-! ## What no exchange breaks -/

/-- A quiet question changes neither the cache nor who owns what. -/
theorem reply_quiet {q : ServiceQuestion} {r : q.Reply} (h : reply crew q s = (r, s'))
    (hquiet : q.isQuiet = true) : s'.cache = s.cache ∧ s'.owned = s.owned := by
  cases q with
  | createJob =>
      obtain ⟨jobs, counts, record, rfl, -⟩ := createJob_eq h
      exact ⟨rfl, rfl⟩
  | getJob id =>
      obtain ⟨⟨n, rfl⟩, -⟩ := getJob_eq h
      exact ⟨rfl, rfl⟩
  | updateJob id u =>
      obtain ⟨jobs, counts, record, rfl, -⟩ := updateJob_eq h
      exact ⟨rfl, rfl⟩
  | render id code quality =>
      obtain ⟨-, disk, rfl, -⟩ := render_eq h
      exact ⟨rfl, rfl⟩
  | remember ns print value => cases hquiet
  | claim id => cases hquiet
  | release id => cases hquiet
  | _ =>
      cases h
      exact ⟨rfl, rfl⟩

/-- The ids of a studio are in order: whatever is there has one of the fresh ids that were
given away, and stands under its own id. -/
structure IdsInOrder (crew : Crew) (s : Studio) : Prop where
  given : ∀ id, s.jobs.Has id → ∃ n < s.counts.made, id = crew.freshId n
  own : ∀ id job, s.jobs.record? id = some job → job.id = id

/-- An exchange changes the job store by a creation, by an update, or not at all. -/
theorem reply_jobs {q : ServiceQuestion} {r : q.Reply} (h : reply crew q s = (r, s')) :
    s.counts.made ≤ s'.counts.made ∧
      (s'.jobs = s.jobs ∨
        (∃ id u reply, s.jobs.Updates id u reply s'.jobs) ∨
        ∃ job, s.counts.made < s'.counts.made ∧
          s.jobs.Creates (crew.freshId s.counts.made) (.ok job) s'.jobs) := by
  cases q with
  | createJob =>
      obtain ⟨jobs, counts, record, rfl, -, hmade, hone, hcreates⟩ := createJob_eq h
      refine ⟨hmade, ?_⟩
      rcases r with fault | job
      · cases hcreates
        exact Or.inl rfl
      · refine Or.inr (Or.inr ⟨job, ?_, hcreates⟩)
        change s.counts.made < counts.made
        rw [hone job rfl]
        exact Nat.lt_succ_self _
  | getJob id =>
      obtain ⟨⟨n, rfl⟩, -⟩ := getJob_eq h
      exact ⟨Nat.le_refl _, Or.inl rfl⟩
  | updateJob id u =>
      obtain ⟨jobs, counts, record, rfl, hmade, -, hupdates⟩ := updateJob_eq h
      exact ⟨Nat.le_of_eq hmade.symm, Or.inr (Or.inl ⟨id, u, r, hupdates⟩)⟩
  | render id code quality =>
      obtain ⟨-, disk, rfl, -⟩ := render_eq h
      exact ⟨Nat.le_refl _, Or.inl rfl⟩
  | _ =>
      cases h
      exact ⟨Nat.le_refl _, Or.inl rfl⟩

/-- Nothing in the job store goes away. -/
theorem reply_has {q : ServiceQuestion} {r : q.Reply} (h : reply crew q s = (r, s'))
    {id : String} (hid : s.jobs.Has id) : s'.jobs.Has id := by
  obtain ⟨-, hsame | ⟨_, _, _, hupdates⟩ | ⟨_, _, hcreates⟩⟩ := reply_jobs h
  · rwa [hsame]
  · exact hupdates.has_iff.mpr hid
  · exact hcreates.has hid

/-- **Ids stay in order.** -/
theorem IdsInOrder.reply {q : ServiceQuestion} {r : q.Reply} (hs : IdsInOrder crew s)
    (h : reply crew q s = (r, s')) : IdsInOrder crew s' := by
  obtain ⟨hmade, hsame | ⟨id, u, reply, hupdates⟩ | ⟨job, hmore, hcreates⟩⟩ := reply_jobs h
  · refine ⟨fun id hid => ?_, fun id job hjob => ?_⟩
    · rw [hsame] at hid
      obtain ⟨n, hn, rfl⟩ := hs.given id hid
      exact ⟨n, by omega, rfl⟩
    · rw [hsame] at hjob
      exact hs.own id job hjob
  · refine ⟨fun id' hid => ?_, fun id' job hjob => ?_⟩
    · obtain ⟨n, hn, rfl⟩ := hs.given id' (hupdates.has_iff.mp hid)
      exact ⟨n, by omega, rfl⟩
    · rcases hupdates.record_cases hjob with hold | ⟨rfl, -, old, hold, rfl⟩
      · exact hs.own id' job hold
      · exact hs.own id' old hold
  · refine ⟨fun id' hid => ?_, fun id' job' hjob => ?_⟩
    · rcases hcreates.has_cases hid with hold | rfl
      · obtain ⟨n, hn, rfl⟩ := hs.given id' hold
        exact ⟨n, by omega, rfl⟩
      · exact ⟨_, hmore, rfl⟩
    · rcases hcreates.record_cases hjob with hold | ⟨rfl, rfl⟩
      · exact hs.own id' job' hold
      · rfl

/-- The id of the next job is new, as fresh ids do not repeat. -/
theorem IdsInOrder.next_new (hs : IdsInOrder crew s)
    (hfresh : Function.Injective crew.freshId) : ¬ s.jobs.Has (crew.freshId s.counts.made) := by
  intro hid
  obtain ⟨n, hn, heq⟩ := hs.given _ hid
  have := hfresh heq
  omega

/-- A job that is made is new. -/
theorem createJob_new (hfresh : Function.Injective crew.freshId) (horder : IdsInOrder crew s)
    {job : Job} (h : reply crew .createJob s = (.ok job, s')) :
    s'.videos = s.videos ∧ s'.disk = s.disk ∧ ¬ s.jobs.Has job.id ∧ s'.jobs.Has job.id := by
  have hnew := horder.next_new hfresh
  obtain ⟨jobs, counts, record, rfl, -, -, -, hcreates⟩ := createJob_eq h
  cases hcreates with
  | made fresh has record others =>
      have hid : job.id = crew.freshId s.counts.made := congrArg Job.id fresh
      rw [hid]
      exact ⟨rfl, rfl, hnew, has⟩

end Studio

end SceneRender
