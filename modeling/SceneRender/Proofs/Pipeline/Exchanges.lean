import SceneRender.Proofs.Pipeline.AttemptCourse
import SceneRender.Pipeline.Studio

/-!
# What exchanges leave behind

The exchanges of a plan with a studio tell all that the plan did: which records it
wrote, what it had rendered and what it had repaired.  `Studio.record_reply` says what
one exchange adds to the studio's own record, and `Studio.carriedOut_of_served` that a
record which was written is the old record with its update.
-/

namespace SceneRender

open Plan

namespace ServiceExchange

/-- The record that an exchange writes. -/
def written? : ServiceExchange → Option Job
  | ⟨.updateJob _ _, (.ok (some job) : JobReply)⟩ => some job
  | ⟨.createJob, (.ok job : Except StoreFault Job)⟩ => some job
  | _ => none

/-- The call of the renderer in an exchange, with its outcome. -/
def render? : ServiceExchange → Option (String × String × Quality × RenderOutcome)
  | ⟨.render id code quality, (outcome : RenderOutcome)⟩ => some (id, code, quality, outcome)
  | _ => none

/-- The call of the repair in an exchange, with its reply. -/
def repair? : ServiceExchange → Option (String × String × String)
  | ⟨.repair code diagnostic, (reply : String)⟩ => some (code, diagnostic, reply)
  | _ => none

/-- Do the stores serve the exchange: is the job found, is the video stored? -/
def served : ServiceExchange → Bool
  | ⟨.getJob _, (reply : JobReply)⟩ | ⟨.updateJob _ _, (reply : JobReply)⟩ =>
    reply.toOption.join.isSome
  | ⟨.keepVideo _ _, (reply : Except ArtifactFault String)⟩ => reply.toOption.isSome
  | _ => true

/-- Is the reply of a store something else than a fault? -/
def isFaultless : ServiceExchange → Bool
  | ⟨.createJob, (reply : Except StoreFault Job)⟩ => reply.toOption.isSome
  | ⟨.getJob _, (reply : JobReply)⟩ | ⟨.updateJob _ _, (reply : JobReply)⟩ =>
    reply.toOption.isSome
  | ⟨.findVideo _, (reply : Except ArtifactFault (Option String))⟩
  | ⟨.cloneVideo _ _, (reply : Except ArtifactFault (Option String))⟩ => reply.toOption.isSome
  | ⟨.keepVideo _ _, (reply : Except ArtifactFault String)⟩ => reply.toOption.isSome
  | _ => true

end ServiceExchange

open ServiceExchange

/-- The records that are written, in order. -/
def recordsOf (h : List ServiceExchange) : List Job := h.filterMap written?

/-- The calls of the renderer, in order. -/
def rendersOf (h : List ServiceExchange) : List (String × String × Quality × RenderOutcome) :=
  h.filterMap render?

/-- The calls of the repair, in order. -/
def repairsOf (h : List ServiceExchange) : List (String × String × String) :=
  h.filterMap repair?

/-- The written records of two parts follow each other. -/
@[simp] theorem recordsOf_append (h h' : List ServiceExchange) :
    recordsOf (h ++ h') = recordsOf h ++ recordsOf h' :=
  List.filterMap_append

/-- The calls of the renderer in two parts follow each other. -/
@[simp] theorem rendersOf_append (h h' : List ServiceExchange) :
    rendersOf (h ++ h') = rendersOf h ++ rendersOf h' :=
  List.filterMap_append

/-- The calls of the repair in two parts follow each other. -/
@[simp] theorem repairsOf_append (h h' : List ServiceExchange) :
    repairsOf (h ++ h') = repairsOf h ++ repairsOf h' :=
  List.filterMap_append

/-- An update as a store carries it out: the new record is the old one, updated. -/
def ServiceExchange.CarriedOut : ServiceExchange → Prop
  | ⟨.updateJob _ u, (reply : JobReply)⟩ => ∃ old now, reply = .ok (some (Job.apply old u now))
  | ⟨.keepVideo _ _, (reply : Except ArtifactFault String)⟩ => ∃ target, reply = .ok target
  | _ => True

namespace Studio

/-- What is asked and replied while a plan runs in a studio. -/
def exchanges {α : Type} (crew : Crew) (p : ServicePlan α) (s : Studio) : List ServiceExchange :=
  p.transcript (Studio.reply crew) s

end Studio

/-- One reply adds to the studio's own record what the exchange leaves behind. -/
theorem Studio.record_reply (crew : Crew) (q : ServiceQuestion) (s : Studio) :
    (reply crew q s).2.record.written =
        (written? ⟨q, (reply crew q s).1⟩).toList ++ s.record.written ∧
      (reply crew q s).2.record.rendered =
        ((render? ⟨q, (reply crew q s).1⟩).map fun call => (call.1, call.2.1, call.2.2.1)).toList ++
          s.record.rendered ∧
      (reply crew q s).2.record.repaired =
        ((repair? ⟨q, (reply crew q s).1⟩).map fun call => (call.1, call.2.1)).toList ++
          s.record.repaired := by
  cases q with
  | createJob =>
      simp only [reply, createJob]
      rcases crew.storeFailure s.counts.creates .create with _ | fault | _ <;>
        rcases s.jobs.create (crew.freshId s.counts.made) (crew.now s.counts.readings)
          with ⟨_ | job, jobs⟩ <;>
        exact ⟨rfl, rfl, rfl⟩
  | getJob id =>
      simp only [reply, getJob]
      rcases crew.storeFailure s.counts.gets (.get id) with _ | fault | _ <;>
        exact ⟨rfl, rfl, rfl⟩
  | updateJob id u =>
      simp only [reply, updateJob]
      rcases crew.storeFailure s.counts.updates (.update id u) with _ | fault | _ <;>
        rcases s.jobs.update id u (crew.now s.counts.readings) with ⟨_ | _ | job, jobs⟩ <;>
        exact ⟨rfl, rfl, rfl⟩
  | render id code quality =>
      simp only [reply, render]
      rcases crew.render s.record.rendered.length id code quality
        with ⟨path, _ | content⟩ | _ | diagnostic
      · exact ⟨rfl, rfl, rfl⟩
      · dsimp only
        cases s.disk.write path content <;> exact ⟨rfl, rfl, rfl⟩
      · exact ⟨rfl, rfl, rfl⟩
      · exact ⟨rfl, rfl, rfl⟩
  | _ => exact ⟨rfl, rfl, rfl⟩

/-- An update that finds its job answers with the old record, updated. -/
theorem JobStore.update_found {store : JobStore} {id : String} {u : JobUpdate} {now : Timestamp}
    {job : Job} (h : (store.update id u now).1 = .ok (some job)) :
    ∃ old, store.get id = .ok (some old) ∧ job = old.apply u now := by
  cases store with
  | memory jobs =>
      cases hold : jobs.lookup id with
      | none => simp [JobStore.update, hold] at h
      | some old =>
          refine ⟨old, by simp [JobStore.get, hold], ?_⟩
          simpa [JobStore.update, hold] using h.symm
  | table rows =>
      rcases hold : rows.get id with fault | _ | old
      · simp [JobStore.update, hold] at h
      · simp [JobStore.update, hold] at h
      · refine ⟨old, hold, ?_⟩
        simpa [JobStore.update, hold] using h.symm

/-- An update that finds its job answers with the old record, updated. -/
theorem Studio.updateJob_found {crew : Crew} {s : Studio} {id : String} {u : JobUpdate} {job : Job}
    (h : (s.updateJob crew id u).1 = .ok (some job)) :
    ∃ old now, s.jobs.get id = .ok (some old) ∧ job = old.apply u now := by
  cases failure : crew.storeFailure s.counts.updates (.update id u) with
  | some failed => cases failed <;> simp [Studio.updateJob, failure] at h
  | none =>
      rcases hu : s.jobs.update id u (crew.now s.counts.readings) with ⟨_ | _ | job', jobs⟩ <;>
        simp only [Studio.updateJob, failure, hu] at h <;> cases h
      obtain ⟨old, hold, rfl⟩ := JobStore.update_found (congrArg Prod.fst hu)
      exact ⟨old, _, hold, rfl⟩

/-- **A studio carries out what it serves.** -/
theorem Studio.carriedOut_of_served {crew : Crew} {α : Type} {p : ServicePlan α} {s : Studio}
    {e : ServiceExchange} (he : e ∈ s.exchanges crew p)
    (hserved : e.served = true) : e.CarriedOut := by
  obtain ⟨q, r⟩ := e
  obtain ⟨s', hr⟩ := reply_of_mem_transcript he
  cases q with
  | updateJob id u =>
      rcases r with fault | _ | job
      · cases hserved
      · cases hserved
      · obtain ⟨old, now, -, rfl⟩ := Studio.updateJob_found hr.symm
        exact ⟨old, now, rfl⟩
  | keepVideo id path =>
      rcases r with fault | target
      · cases hserved
      · exact ⟨target, rfl⟩
  | _ => trivial

/-- A job that was found is in the store. -/
theorem Studio.getJob_found {crew : Crew} {s : Studio} {id : String} {job : Job}
    (h : (s.getJob crew id).1 = .ok (some job)) : s.jobs.get id = .ok (some job) := by
  cases failure : crew.storeFailure s.counts.gets (.get id) with
  | some failed => cases failed <;> simp [Studio.getJob, failure] at h
  | none => simpa [Studio.getJob, failure] using h

end SceneRender
