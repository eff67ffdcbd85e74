import DdsPipe.Communication.Routing

/-!
Owns when the creation of a writer in a bridge, and the construction of a bridge,
end in `InitializationException`: which readers and writers they ask the
participants for, given the tracks that are there and the routes.

Does not own: who catches the exception.
-/

namespace DdsPipe.Communication.DdsBridge

open Std (TreeMap TreeSet)
open DdsPipe.Types DdsPipe.Configuration

/-- The source has no track yet, needs one for one of the writers, and its reader
cannot be created. -/
def CannotTrack (environment : Environment) (writers : ParticipantId → Prop) (bridge : DdsBridge)
    (id : ParticipantId) : Prop :=
  bridge.tracks[id]? = none ∧
    (∃ writer, writers writer ∧ bridge.RouteAllows environment.participants id writer) ∧
    environment.createThrows .reader id bridge.topic = true

/-- The reader of a new track for one of the writers cannot be created. -/
def CannotAddWriters (environment : Environment) (writers : ParticipantId → Prop)
    (bridge : DdsBridge) : Prop :=
  ∃ id ∈ environment.participants, bridge.CannotTrack environment writers id

/-- The writer of a participant, or the reader of a track that it newly needs,
cannot be created. -/
def CannotCreateWriter (environment : Environment) (bridge : DdsBridge)
    (participantId : ParticipantId) : Prop :=
  participantId ∈ environment.participants ∧
    (environment.createThrows .writer participantId bridge.topic = true ∨
      bridge.CannotAddWriters environment (· = participantId))

/-- One of the writers that some track needs, or the reader of one of the tracks,
cannot be created. -/
def CannotCreateAllTracks (environment : Environment) (bridge : DdsBridge) : Prop :=
  let Needed (writer : ParticipantId) : Prop := ∃ source ∈ environment.participants,
    Destination environment.participants bridge.routes source writer
  (∃ writer ∈ environment.participants, Needed writer ∧
      environment.createThrows .writer writer bridge.topic = true) ∨
    bridge.CannotAddWriters environment Needed

/-- One of the entities that a new bridge for the topic starts with cannot be
created. -/
def CannotConstruct (environment : Environment) (topic : DdsTopic)
    (routesConfig : RoutesConfiguration) (removeUnusedEntities : Bool) : Prop :=
  let bridge : DdsBridge := { topic := topic, routes := routesConfig.routes }
  if removeUnusedEntities && topic.topicDiscoverer != defaultParticipantId then
    bridge.CannotCreateWriter environment topic.topicDiscoverer
  else bridge.CannotCreateAllTracks environment

section

variable {environment : Environment} {bridge : DdsBridge} {id participantId : ParticipantId}
  {writers : TreeMap ParticipantId Bool}

/-! ### Entities -/

theorem create_of_mem {kind : EntityKind} {topic : DdsTopic}
    (member : id ∈ environment.participants) :
    environment.create kind id topic =
      if environment.createThrows kind id topic then .error .initializationException
      else .ok () := by
  obtain ⟨participant, found⟩ := OrderedMap.mem_iff_exists_getElem?.mp member
  unfold Environment.create Environment.getParticipant
  rw [found]
  rfl

theorem create_of_not_mem {kind : EntityKind} {topic : DdsTopic}
    (absent : id ∉ environment.participants) :
    environment.create kind id topic = .error .nullParticipant := by
  unfold Environment.create Environment.getParticipant
  rw [OrderedMap.getElem?_eq_none_iff.mpr absent]
  rfl

/-- Without the participant, its pointer is dereferenced before anything throws. -/
theorem create_throws_iff {kind : EntityKind} {topic : DdsTopic} :
    environment.create kind id topic = .error .initializationException ↔
      id ∈ environment.participants ∧ environment.createThrows kind id topic = true := by
  by_cases member : id ∈ environment.participants
  · rw [create_of_mem member]
    split
    · next throws => simp [member, throws]
    · next creates => simp [creates]
  · simp [create_of_not_mem member, member]

/-! ### Tracks -/

theorem exists_writersOfTrack (member : id ∈ environment.participants) :
    ∃ selected, bridge.writersOfTrack environment writers id = .ok selected := by
  obtain ⟨participant, found⟩ := OrderedMap.mem_iff_exists_getElem?.mp member
  unfold writersOfTrack
  split
  · exact ⟨_, rfl⟩
  · rw [Environment.getParticipant, found]
    exact ⟨_, rfl⟩

/-- One round over the participants throws exactly when the track of its source
cannot be made. -/
theorem addWritersToTrack_fails_or_succeeds (member : id ∈ environment.participants) :
    (addWritersToTrack environment writers bridge id = .error .initializationException ∧
        bridge.CannotTrack environment (· ∈ writers) id) ∨
      ((∃ next, addWritersToTrack environment writers bridge id = .ok next) ∧
        ¬ bridge.CannotTrack environment (· ∈ writers) id) := by
  obtain ⟨selected, chosen⟩ : ∃ selected,
      bridge.writersOfTrack environment writers id = .ok selected := exists_writersOfTrack member
  have members := mem_writersOfTrack chosen
  unfold addWritersToTrack
  rw [chosen]
  simp only [bind, Except.bind]
  split
  · next empty =>
      refine .inr ⟨⟨bridge, rfl⟩, ?_⟩
      rintro ⟨_, ⟨writer, selects⟩, _⟩
      exact TreeMap.not_mem_of_isEmpty empty ((members writer).mpr selects)
  · next nonempty =>
      split
      · next track found =>
          refine .inr ⟨⟨_, rfl⟩, fun cannot => ?_⟩
          rw [cannot.1] at found
          cases found
      · next absent =>
          rw [Bool.not_eq_true, TreeMap.isEmpty_eq_false_iff_exists_mem] at nonempty
          obtain ⟨writer, selects⟩ := nonempty
          rw [create_of_mem member]
          cases throws : environment.createThrows .reader id bridge.topic with
          | true => exact .inl ⟨rfl, absent, ⟨writer, (members writer).mp selects⟩, throws⟩
          | false =>
              refine .inr ⟨⟨_, rfl⟩, fun cannot => ?_⟩
              rw [cannot.2.2] at throws
              cases throws

/-- The frame of the bridge and the other tracks decide the other rounds. -/
theorem cannotTrack_congr {next : DdsBridge} {selects : ParticipantId → Prop}
    (frame : SameFrame bridge next) (same : next.tracks[id]? = bridge.tracks[id]?) :
    next.CannotTrack environment selects id ↔ bridge.CannotTrack environment selects id := by
  simp only [CannotTrack, same, frame.routeAllows, frame.1]

variable (environment bridge writers) in
/-- **Adding writers throws exactly when a reader of a new track does.** -/
theorem addWritersToTracks_fails_or_succeeds :
    (bridge.addWritersToTracks environment writers = .error .initializationException ∧
        bridge.CannotAddWriters environment (· ∈ writers)) ∨
      ((∃ next, bridge.addWritersToTracks environment writers = .ok next) ∧
        ¬ bridge.CannotAddWriters environment (· ∈ writers)) := by
  have distinct : environment.participants.getParticipantsIds.Nodup := TreeMap.nodup_keys
  have rounds : bridge.CannotAddWriters environment (· ∈ writers) ↔
      ∃ id ∈ environment.participants.getParticipantsIds,
        bridge.CannotTrack environment (· ∈ writers) id := by
    simp only [CannotAddWriters, ParticipantsDatabase.getParticipantsIds, TreeMap.mem_keys]
  rw [rounds]
  refine OrderedMap.foldlM_fails_or_succeeds Fault.initializationException
    (CannotTrack environment (· ∈ writers)) ?_ ?_ distinct bridge
  · intro current id member cannot
    rcases addWritersToTrack_fails_or_succeeds (TreeMap.mem_keys.mp member) with
      ⟨failed, _⟩ | ⟨_, can⟩
    · exact failed
    · exact absurd cannot can
  · intro current id member can
    rcases addWritersToTrack_fails_or_succeeds (TreeMap.mem_keys.mp member) with
      ⟨_, cannot⟩ | ⟨⟨next, executed⟩, _⟩
    · exact absurd cannot can
    · obtain ⟨frame, _, others⟩ := addWritersToTrack_gains executed
      exact ⟨next, executed, fun other different =>
        cannotTrack_congr frame (others other different)⟩

theorem addWritersToTracks_throws_iff :
    bridge.addWritersToTracks environment writers = .error .initializationException ↔
      bridge.CannotAddWriters environment (· ∈ writers) := by
  rcases addWritersToTracks_fails_or_succeeds environment bridge writers with
    ⟨failed, cannot⟩ | ⟨⟨next, succeeded⟩, can⟩
  · exact iff_of_true failed cannot
  · rw [succeeded]
    exact iff_of_false (fun failed => by cases failed) can

/-! ### Calls -/

/-- **The creation of a writer** throws exactly when its writer, or the reader of a
track that it newly needs, cannot be created. -/
theorem createWriter_throws_iff :
    bridge.createWriter environment participantId = .error .initializationException ↔
      bridge.CannotCreateWriter environment participantId := by
  have only : ∀ writer, writer ∈ TreeMap.ofList [(participantId, false)] ↔
      writer = participantId := by
    intro writer
    rw [TreeMap.mem_ofList, List.contains_iff_mem]
    exact List.mem_singleton
  have added : bridge.addWritersToTracks environment (TreeMap.ofList [(participantId, false)]) =
      .error .initializationException ↔
        bridge.CannotAddWriters environment (· = participantId) := by
    rw [addWritersToTracks_throws_iff]
    simp only [only]
  unfold createWriter CannotCreateWriter
  rw [OrderedMap.bind_eq_error_iff, create_throws_iff]
  by_cases member : participantId ∈ environment.participants
  · rw [create_of_mem member]
    cases environment.createThrows .writer participantId bridge.topic with
    | true => simp [member]
    | false => simpa [member] using added
  · simp [create_of_not_mem member, member]

theorem cannotCreateAllTracks_of_throws
    (threw : bridge.createAllTracks environment = .error .initializationException) :
    bridge.CannotCreateAllTracks environment := by
  unfold createAllTracks at threw
  rcases OrderedMap.bind_eq_error_iff.mp threw with sources | ⟨needed, chosen, threw⟩
  · have known : OrderedMap.FailsOnly (· = Fault.nullParticipant)
        (environment.participants.getParticipantsIds.mapM
          (bridge.writersToCreate environment)) := by
      refine OrderedMap.failsOnly_mapM fun id _ => ?_
      unfold writersToCreate
      split
      · exact OrderedMap.failsOnly_ok _
      · exact OrderedMap.failsOnly_bind (getParticipant_failsOnly environment id)
          fun _ => OrderedMap.failsOnly_ok _
    cases known _ sources
  · have members := mem_ofList_writersToCreate chosen
    rcases OrderedMap.bind_eq_error_iff.mp threw with creating | ⟨_, _, adding⟩
    · have named : OrderedMap.FailsOnly (fun fault => fault = .initializationException →
          ∃ writer ∈ environment.participants, (∃ source ∈ environment.participants,
            Destination environment.participants bridge.routes source writer) ∧
            environment.createThrows .writer writer bridge.topic = true)
          ((TreeMap.ofList (needed.flatten.map fun id => (id, false))).keys.forM fun id =>
            environment.create .writer id bridge.topic) := by
        refine OrderedMap.failsOnly_forM fun writer listed fault failed same => ?_
        subst same
        obtain ⟨known, throws⟩ := create_throws_iff.mp failed
        exact ⟨writer, known, (members writer).mp (TreeMap.mem_keys.mp listed), throws⟩
      exact .inl (named _ creating rfl)
    · have cannot := addWritersToTracks_throws_iff.mp adding
      simp only [members] at cannot
      exact .inr cannot

/-- **The construction of a bridge** throws only when one of the entities that it
starts with cannot be created. -/
theorem cannotConstruct_of_throws {topic : DdsTopic} {routesConfig : RoutesConfiguration}
    {removeUnusedEntities : Bool}
    (threw : construct environment topic routesConfig removeUnusedEntities =
      .error .initializationException) :
    CannotConstruct environment topic routesConfig removeUnusedEntities := by
  unfold construct at threw
  unfold CannotConstruct
  dsimp only at threw ⊢
  split at threw
  · next forDiscoverer =>
      rw [if_pos forDiscoverer]
      exact createWriter_throws_iff.mp threw
  · next forAll =>
      rw [if_neg forAll]
      exact cannotCreateAllTracks_of_throws threw

end

end DdsPipe.Communication.DdsBridge
