import DdsPipe.Configuration.DdsPipeConfiguration

/-!
Owns the bridge of one topic as its mutex serialises it: the tracks from each
source participant to the writers of its route, how writers are added and
removed, and how the bridge and its tracks are enabled and disabled.

Owns the faults that a call can end in, and the environment it runs in.

Does not own: the transmission inside a track and the threads that run it, and
the quality of service that a topic is given for each participant.
-/

namespace DdsPipe.Communication

open Std (TreeMap TreeSet)
open DdsPipe.Types DdsPipe.Configuration

/-! ### Faults and environment -/

inductive Fault where
  /-- `utils::InitializationException`, thrown when an entity cannot be created. -/
  | initializationException
  /-- A pointer that the participants database gave out is null. -/
  | nullParticipant
  /-- A pointer looked up in a map of the service bridge is null. -/
  | nullEntity
deriving DecidableEq, Repr

inductive EntityKind where
  | reader
  | writer
deriving DecidableEq, Repr

/-- Which of the entities that a call asks for cannot be created. -/
abbrev CreateThrows := EntityKind → ParticipantId → DdsTopic → Bool

/-- Every entity can be created. -/
def neverThrows : CreateThrows := fun _ _ _ => false

/-- What a call of the core meets outside it. -/
structure Environment where
  participants : ParticipantsDatabase
  createThrows : CreateThrows := neverThrows

namespace Environment

/-- `ParticipantsDatabase::get_participant`, whose result is dereferenced. -/
def getParticipant (environment : Environment) (id : ParticipantId) : Except Fault IParticipant :=
  match environment.participants[id]? with
  | some participant => .ok participant
  | none => .error .nullParticipant

/-- `IParticipant::create_reader` and `IParticipant::create_writer`. -/
def create (environment : Environment) (kind : EntityKind) (id : ParticipantId)
    (topic : DdsTopic) : Except Fault Unit := do
  let _ ← environment.getParticipant id
  if environment.createThrows kind id topic then
    throw .initializationException

end Environment

/-! ### Tracks -/

/-- The track of one source. `writers` maps each participant whose writer is in
the track to whether that writer is enabled. A writer object is shared by the
tracks of its bridge; they are enabled and disabled together. -/
structure Track where
  enabled : Bool := false
  readerEnabled : Bool := false
  writers : TreeMap ParticipantId Bool := ∅

namespace Track

def enable (track : Track) : Track :=
  if track.enabled then track
  else { enabled := true, readerEnabled := true, writers := track.writers.map fun _ _ => true }

def disable (track : Track) : Track :=
  if track.enabled then
    { enabled := false, readerEnabled := false, writers := track.writers.map fun _ _ => false }
  else track

def addWriter (track : Track) (id : ParticipantId) (writerEnabled : Bool) : Track :=
  { track with writers := track.writers.insert id (track.enabled || writerEnabled) }

def removeWriter (track : Track) (id : ParticipantId) : Track :=
  { track with writers := track.writers.erase id }

def hasWriter (track : Track) (id : ParticipantId) : Bool :=
  track.writers.contains id

def hasWriters (track : Track) : Bool :=
  track.writers.size > 0

/-- The loop that adds the writers of a track which it does not have yet. -/
def addMissingWriters (track : Track) (writers : TreeMap ParticipantId Bool) : Track :=
  writers.foldl
    (fun track id writerEnabled =>
      if track.hasWriter id then track else track.addWriter id writerEnabled) track

end Track

namespace Track

theorem enabled_addMissingWriters {track : Track} {writers : TreeMap ParticipantId Bool} :
    (track.addMissingWriters writers).enabled = track.enabled ∧
      (track.addMissingWriters writers).readerEnabled = track.readerEnabled := by
  rw [addMissingWriters, TreeMap.foldl_eq_foldl_toList]
  induction writers.toList generalizing track with
  | nil => exact ⟨rfl, rfl⟩
  | cons entry rest inductionHypothesis =>
      rw [List.foldl_cons]
      rw [(inductionHypothesis).1, (inductionHypothesis).2]
      split <;> exact ⟨rfl, rfl⟩

theorem mem_foldl_addWriter (entries : List (ParticipantId × Bool)) (track : Track)
    (id : ParticipantId) :
    id ∈ (entries.foldl (fun track entry =>
        if track.hasWriter entry.1 then track else track.addWriter entry.1 entry.2) track).writers ↔
      id ∈ track.writers ∨ id ∈ entries.map Prod.fst := by
  induction entries generalizing track with
  | nil => simp
  | cons entry rest inductionHypothesis =>
      rw [List.foldl_cons, inductionHypothesis, List.map_cons, List.mem_cons, ← or_assoc]
      refine or_congr ?_ Iff.rfl
      split
      · next present =>
          refine ⟨.inl, ?_⟩
          rintro (member | rfl)
          · exact member
          · exact TreeMap.mem_iff_contains.mpr present
      · rw [addWriter, OrderedMap.mem_insert_iff, or_comm]

theorem mem_addMissingWriters {track : Track} {writers : TreeMap ParticipantId Bool}
    {id : ParticipantId} :
    id ∈ (track.addMissingWriters writers).writers ↔ id ∈ track.writers ∨ id ∈ writers := by
  rw [addMissingWriters, TreeMap.foldl_eq_foldl_toList, mem_foldl_addWriter,
    OrderedMap.mem_map_fst_toList]

end Track

/-! ### The bridge -/

structure DdsBridge where
  topic : DdsTopic
  routes : TreeMap ParticipantId (TreeSet ParticipantId)
  enabled : Bool := false
  tracks : TreeMap ParticipantId Track := ∅

namespace DdsBridge

def enable (bridge : DdsBridge) : DdsBridge :=
  if bridge.enabled then bridge
  else { bridge with tracks := bridge.tracks.map fun _ track => track.enable, enabled := true }

def disable (bridge : DdsBridge) : DdsBridge :=
  if bridge.enabled then
    { bridge with tracks := bridge.tracks.map fun _ track => track.disable, enabled := false }
  else bridge

/-- The writers, among `writers`, that the track of `id` may have. -/
def writersOfTrack (environment : Environment) (bridge : DdsBridge)
    (writers : TreeMap ParticipantId Bool) (id : ParticipantId) :
    Except Fault (TreeMap ParticipantId Bool) :=
  match bridge.routes[id]? with
  | some writersInRoute => .ok (writers.filter fun writerId _ => writersInRoute.contains writerId)
  | none => do
      let participant ← environment.getParticipant id
      return if participant.isRepeater then writers else writers.erase id

/-- One round of `add_writers_to_tracks_nts_`. -/
def addWritersToTrack (environment : Environment) (writers : TreeMap ParticipantId Bool)
    (bridge : DdsBridge) (id : ParticipantId) : Except Fault DdsBridge := do
  let writers ← bridge.writersOfTrack environment writers id
  if writers.isEmpty then return bridge
  match bridge.tracks[id]? with
  | some track =>
      return { bridge with tracks := bridge.tracks.insert id (track.addMissingWriters writers) }
  | none =>
      environment.create .reader id bridge.topic
      let track : Track := { writers := writers }
      return { bridge with
        tracks := bridge.tracks.insert id (if bridge.enabled then track.enable else track) }

/-- `add_writers_to_tracks_nts_`. -/
def addWritersToTracks (environment : Environment) (bridge : DdsBridge)
    (writers : TreeMap ParticipantId Bool) : Except Fault DdsBridge :=
  environment.participants.getParticipantsIds.foldlM (addWritersToTrack environment writers) bridge

def createWriter (environment : Environment) (bridge : DdsBridge) (participantId : ParticipantId) :
    Except Fault DdsBridge := do
  environment.create .writer participantId bridge.topic
  bridge.addWritersToTracks environment (TreeMap.ofList [(participantId, false)])

/-- `remove_writer`: a track left without writers is erased. -/
def removeWriter (bridge : DdsBridge) (participantId : ParticipantId) : DdsBridge :=
  { bridge with tracks := bridge.tracks.filterMap fun _ track =>
      let remaining := track.removeWriter participantId
      if remaining.hasWriters then some remaining else none }

/-- The writers that the track of `id` needs, when every writer is created. -/
def writersToCreate (environment : Environment) (bridge : DdsBridge) (id : ParticipantId) :
    Except Fault (List ParticipantId) :=
  match bridge.routes[id]? with
  | some writersIds => .ok writersIds.toList
  | none => do
      let ids := environment.participants.getParticipantsIds
      let participant ← environment.getParticipant id
      return if participant.isRepeater then ids else ids.erase id

def createAllTracks (environment : Environment) (bridge : DdsBridge) : Except Fault DdsBridge := do
  let needed ← environment.participants.getParticipantsIds.mapM (bridge.writersToCreate environment)
  let writers := TreeMap.ofList (needed.flatten.map fun id => (id, false))
  writers.keys.forM fun id => environment.create .writer id bridge.topic
  bridge.addWritersToTracks environment writers

/-- The constructor. -/
def construct (environment : Environment) (topic : DdsTopic) (routesConfig : RoutesConfiguration)
    (removeUnusedEntities : Bool) : Except Fault DdsBridge :=
  let bridge : DdsBridge := { topic := topic, routes := routesConfig.routes }
  if removeUnusedEntities && topic.topicDiscoverer != defaultParticipantId then
    bridge.createWriter environment topic.topicDiscoverer
  else bridge.createAllTracks environment

/-! ### Which writers a track has -/

/-- The routes let the track of `reader` have the writer of `writer`. -/
def RouteAllows (participants : ParticipantsDatabase) (bridge : DdsBridge)
    (reader writer : ParticipantId) : Prop :=
  match bridge.routes[reader]? with
  | some writersInRoute => writer ∈ writersInRoute
  | none => writer ≠ reader ∨ ∃ participant, participants[reader]? = some participant ∧
      participant.isRepeater = true

/-- The track of `reader` exists and has the writer of `writer`. -/
def HasWriterIn (bridge : DdsBridge) (reader writer : ParticipantId) : Prop :=
  ∃ track, bridge.tracks[reader]? = some track ∧ writer ∈ track.writers

/-- The tracks and their readers are enabled when the bridge is, and disabled
when it is not. -/
def Uniform (bridge : DdsBridge) : Prop :=
  ∀ (id : ParticipantId) (track : Track), bridge.tracks[id]? = some track →
    track.enabled = bridge.enabled ∧ track.readerEnabled = bridge.enabled

/-- No track is left without writers. -/
def Inhabited (bridge : DdsBridge) : Prop :=
  ∀ (id : ParticipantId) (track : Track), bridge.tracks[id]? = some track →
    ∃ writer, writer ∈ track.writers

/-- What adding writers leaves as it is. -/
def SameFrame (bridge next : DdsBridge) : Prop :=
  next.topic = bridge.topic ∧ next.routes = bridge.routes ∧ next.enabled = bridge.enabled

theorem mem_writersOfTrack {environment : Environment} {bridge : DdsBridge}
    {writers selected : TreeMap ParticipantId Bool} {id : ParticipantId}
    (succeeded : bridge.writersOfTrack environment writers id = .ok selected)
    (writer : ParticipantId) :
    writer ∈ selected ↔ writer ∈ writers ∧
      bridge.RouteAllows environment.participants id writer := by
  unfold writersOfTrack at succeeded
  unfold RouteAllows
  split at succeeded
  · next writersInRoute found =>
      cases succeeded
      simp [TreeMap.mem_filter]
  · next absent =>
      obtain ⟨participant, found, chosen⟩ := OrderedMap.bind_eq_ok_iff.mp succeeded
      unfold Environment.getParticipant at found
      split at found
      · next stored known =>
          cases found
          cases chosen
          simp only [known, Option.some.injEq, exists_eq_left']
          cases participant.isRepeater with
          | true => simp
          | false =>
              simp only [Bool.false_eq_true, if_false, OrderedMap.mem_erase_iff, or_false,
                and_comm]
      · cases found

/-! ### What adding writers does -/

/-- What adding `writers` does to the track of one source. -/
def Gains (bridge : DdsBridge) (selected : ParticipantId → Prop) (old new : Option Track) : Prop :=
  (∀ writer, (∃ track, new = some track ∧ writer ∈ track.writers) ↔
    (∃ track, old = some track ∧ writer ∈ track.writers) ∨ selected writer) ∧
  ((∀ track, old = some track →
      track.enabled = bridge.enabled ∧ track.readerEnabled = bridge.enabled) →
    ∀ track, new = some track →
      track.enabled = bridge.enabled ∧ track.readerEnabled = bridge.enabled) ∧
  ((∀ track, old = some track → ∃ writer, writer ∈ track.writers) →
    ∀ track, new = some track → ∃ writer, writer ∈ track.writers)

theorem addWritersToTrack_gains {environment : Environment}
    {writers : TreeMap ParticipantId Bool} {bridge next : DdsBridge} {id : ParticipantId}
    (succeeded : addWritersToTrack environment writers bridge id = .ok next) :
    SameFrame bridge next ∧
      bridge.Gains
        (fun writer => writer ∈ writers ∧ bridge.RouteAllows environment.participants id writer)
        bridge.tracks[id]? next.tracks[id]? ∧
      ∀ other, other ≠ id → next.tracks[other]? = bridge.tracks[other]? := by
  unfold addWritersToTrack at succeeded
  obtain ⟨selected, chosen, continued⟩ := OrderedMap.bind_eq_ok_iff.mp succeeded
  have members := mem_writersOfTrack chosen
  split at continued
  · next empty =>
      cases continued
      have none : ∀ writer, ¬ (writer ∈ writers ∧
          bridge.RouteAllows environment.participants id writer) := by
        intro writer allowed
        exact TreeMap.not_mem_of_isEmpty empty ((members writer).mpr allowed)
      exact ⟨⟨rfl, rfl, rfl⟩, ⟨fun writer => by simp [none writer], fun running => running,
        fun inhabited => inhabited⟩, fun _ _ => rfl⟩
  · next nonempty =>
      obtain ⟨needed, member⟩ : ∃ writer, writer ∈ selected := by
        rw [Bool.not_eq_true, TreeMap.isEmpty_eq_false_iff_exists_mem] at nonempty
        exact nonempty
      split at continued
      · next track found =>
          cases continued
          refine ⟨⟨rfl, rfl, rfl⟩, ?_, fun other different => ?_⟩
          · rw [found, TreeMap.getElem?_insert_self]
            refine ⟨fun writer => ?_, fun running other same => ?_, fun _ other same => ?_⟩
            · simp only [Option.some.injEq, exists_eq_left', Track.mem_addMissingWriters,
                members writer]
            · cases same
              rw [Track.enabled_addMissingWriters.1, Track.enabled_addMissingWriters.2]
              exact running track rfl
            · cases same
              exact ⟨needed, Track.mem_addMissingWriters.mpr (.inr member)⟩
          · exact OrderedMap.getElem?_insert_of_ne different
      · next absent =>
          obtain ⟨_, _, created⟩ := OrderedMap.bind_eq_ok_iff.mp continued
          cases created
          refine ⟨⟨rfl, rfl, rfl⟩, ?_, fun other different => ?_⟩
          · rw [absent, TreeMap.getElem?_insert_self]
            refine ⟨fun writer => ?_, fun _ track same => ?_, fun _ track same => ?_⟩
            · cases bridge.enabled <;> simp [members writer, Track.enable]
            · cases same
              cases bridge.enabled <;> simp [Track.enable]
            · cases same
              refine ⟨needed, ?_⟩
              cases bridge.enabled <;> simp [Track.enable, member]
          · exact OrderedMap.getElem?_insert_of_ne different

theorem SameFrame.trans {bridge middle next : DdsBridge} (first : SameFrame bridge middle)
    (second : SameFrame middle next) : SameFrame bridge next :=
  ⟨second.1.trans first.1, second.2.1.trans first.2.1, second.2.2.trans first.2.2⟩

theorem SameFrame.routeAllows {bridge next : DdsBridge} (frame : SameFrame bridge next)
    (participants : ParticipantsDatabase) (reader writer : ParticipantId) :
    next.RouteAllows participants reader writer ↔
      bridge.RouteAllows participants reader writer := by
  rw [RouteAllows, RouteAllows, frame.2.1]

/-- **Adding writers** gives the track of each source the writers that its
routes let it have, and nothing else. -/
theorem addWritersToTracks_hasWriterIn {environment : Environment}
    {writers : TreeMap ParticipantId Bool} {bridge next : DdsBridge}
    (succeeded : bridge.addWritersToTracks environment writers = .ok next) :
    SameFrame bridge next ∧
      (∀ reader writer, next.HasWriterIn reader writer ↔ bridge.HasWriterIn reader writer ∨
        reader ∈ environment.participants ∧ writer ∈ writers ∧
          bridge.RouteAllows environment.participants reader writer) ∧
      (bridge.Uniform → next.Uniform) ∧ (bridge.Inhabited → next.Inhabited) := by
  have round : ∀ current id after, id ∈ environment.participants.getParticipantsIds →
      SameFrame bridge current →
      addWritersToTrack environment writers current id = .ok after →
      SameFrame bridge after ∧
        bridge.Gains (fun writer => writer ∈ writers ∧
            bridge.RouteAllows environment.participants id writer)
          current.tracks[id]? after.tracks[id]? ∧
        ∀ other, other ≠ id → after.tracks[other]? = current.tracks[other]? := by
    intro current id after _ frame executed
    obtain ⟨kept, gains, others⟩ := addWritersToTrack_gains executed
    refine ⟨frame.trans kept, ?_, others⟩
    simpa only [Gains, frame.routeAllows, frame.2.2] using gains
  obtain ⟨frame, visited, untouched⟩ :=
    OrderedMap.foldlM_keywise (fun current id => current.tracks[id]?) id (SameFrame bridge)
      (fun id => bridge.Gains fun writer => writer ∈ writers ∧
        bridge.RouteAllows environment.participants id writer)
      round (by rw [List.map_id]; exact TreeMap.nodup_keys) ⟨rfl, rfl, rfl⟩ succeeded
  simp only [ParticipantsDatabase.getParticipantsIds, List.map_id, TreeMap.mem_keys, id]
    at visited untouched
  refine ⟨frame, fun reader writer => ?_, fun uniform reader track found => ?_,
    fun inhabited reader track found => ?_⟩
  · by_cases participant : reader ∈ environment.participants
    · rw [HasWriterIn, (visited reader participant).1 writer, HasWriterIn]
      simp only [participant, true_and]
    · simp only [HasWriterIn, untouched reader participant, participant, false_and, or_false]
  · rw [frame.2.2]
    by_cases participant : reader ∈ environment.participants
    · exact (visited reader participant).2.1 (uniform reader) track found
    · exact uniform reader track (by rw [← untouched reader participant, found])
  · by_cases participant : reader ∈ environment.participants
    · exact (visited reader participant).2.2 (inhabited reader) track found
    · exact inhabited reader track (by rw [← untouched reader participant, found])

/-! ### What each call does -/

/-- The tracks follow `sources`: a track has the writer of exactly those of them
that its routes let it have. -/
def Follows (participants : ParticipantsDatabase) (bridge : DdsBridge)
    (sources : ParticipantId → Prop) : Prop :=
  ∀ reader writer, bridge.HasWriterIn reader writer ↔
    reader ∈ participants ∧ sources writer ∧ bridge.RouteAllows participants reader writer

section Calls

variable {environment : Environment} {participants : ParticipantsDatabase}
  {bridge next : DdsBridge} {participantId : ParticipantId} {sources : ParticipantId → Prop}

theorem Follows.congr {other : ParticipantId → Prop}
    (follows : bridge.Follows participants sources)
    (same : ∀ writer, sources writer ↔ other writer) :
    bridge.Follows participants other := by
  intro reader writer
  rw [follows reader writer, same writer]

theorem createWriter_frame
    (succeeded : bridge.createWriter environment participantId = .ok next) :
    SameFrame bridge next ∧ (bridge.Uniform → next.Uniform) := by
  obtain ⟨_, _, added⟩ := OrderedMap.bind_eq_ok_iff.mp succeeded
  obtain ⟨frame, _, uniform, _⟩ := addWritersToTracks_hasWriterIn added
  exact ⟨frame, uniform⟩

theorem createWriter_follows
    (succeeded : bridge.createWriter environment participantId = .ok next)
    (follows : bridge.Follows environment.participants sources) :
    next.Follows environment.participants
      fun writer => sources writer ∨ writer = participantId := by
  obtain ⟨_, _, added⟩ := OrderedMap.bind_eq_ok_iff.mp succeeded
  obtain ⟨frame, gained, _, _⟩ := addWritersToTracks_hasWriterIn added
  intro reader writer
  have only : writer ∈ TreeMap.ofList [(participantId, false)] ↔ writer = participantId := by
    rw [TreeMap.mem_ofList, List.contains_iff_mem]
    exact List.mem_singleton
  rw [gained, follows reader writer, frame.routeAllows, only]
  tauto

theorem removeWriter_follows (follows : bridge.Follows participants sources) :
    (bridge.removeWriter participantId).Follows participants
      fun writer => sources writer ∧ writer ≠ participantId := by
  intro reader writer
  have routes : (bridge.removeWriter participantId).RouteAllows participants reader
      writer ↔ bridge.RouteAllows participants reader writer := Iff.rfl
  have kept : (bridge.removeWriter participantId).HasWriterIn reader writer ↔
      bridge.HasWriterIn reader writer ∧ writer ≠ participantId := by
    simp only [HasWriterIn, removeWriter, TreeMap.getElem?_filterMap', Option.bind_eq_some_iff]
    constructor
    · rintro ⟨track, ⟨old, before, remaining⟩, member⟩
      split at remaining
      · cases remaining
        rw [Track.removeWriter, OrderedMap.mem_erase_iff] at member
        exact ⟨⟨old, before, member.2⟩, member.1⟩
      · cases remaining
    · rintro ⟨⟨old, before, member⟩, different⟩
      have stays : writer ∈ (old.removeWriter participantId).writers :=
        OrderedMap.mem_erase_iff.mpr ⟨different, member⟩
      have nonempty : (old.removeWriter participantId).hasWriters = true := by
        rw [Track.hasWriters, decide_eq_true_eq, gt_iff_lt, Nat.pos_iff_ne_zero, Ne,
          OrderedMap.size_eq_zero_iff]
        exact fun empty => empty writer stays
      exact ⟨_, ⟨old, before, if_pos nonempty⟩, stays⟩
  rw [kept, routes, follows reader writer]
  tauto

theorem removeWriter_uniform (uniform : bridge.Uniform) :
    (bridge.removeWriter participantId).Uniform := by
  intro id track found
  rw [removeWriter, TreeMap.getElem?_filterMap', Option.bind_eq_some_iff] at found
  obtain ⟨old, before, remaining⟩ := found
  dsimp only at remaining
  split at remaining
  · cases remaining
    exact uniform id old before
  · cases remaining

@[simp] theorem enabled_removeWriter :
    (bridge.removeWriter participantId).enabled = bridge.enabled :=
  rfl

@[simp] theorem topic_removeWriter : (bridge.removeWriter participantId).topic = bridge.topic :=
  rfl

@[simp] theorem enabled_enable : bridge.enable.enabled = true := by
  unfold enable
  split <;> simp [*]

@[simp] theorem enabled_disable : bridge.disable.enabled = false := by
  unfold disable
  split <;> simp [*]

@[simp] theorem topic_enable : bridge.enable.topic = bridge.topic := by
  unfold enable
  split <;> rfl

@[simp] theorem topic_disable : bridge.disable.topic = bridge.topic := by
  unfold disable
  split <;> rfl

theorem enable_uniform (uniform : bridge.Uniform) : bridge.enable.Uniform := by
  intro id track found
  unfold enable at found ⊢
  split at found
  · next running => simpa [running] using uniform id track found
  · next stopped =>
      simp only [TreeMap.getElem?_map, Option.map_eq_some_iff] at found
      obtain ⟨old, before, rfl⟩ := found
      have disabled := (uniform id old before).1
      simp [stopped, Track.enable, disabled]

theorem disable_uniform (uniform : bridge.Uniform) : bridge.disable.Uniform := by
  intro id track found
  unfold disable at found ⊢
  split at found
  · next running =>
      simp only [TreeMap.getElem?_map, Option.map_eq_some_iff] at found
      obtain ⟨old, before, rfl⟩ := found
      have enabled := (uniform id old before).1
      simp [running, Track.disable, enabled]
  · next stopped => simpa [stopped] using uniform id track found

/-- Enabling and disabling a track leaves it its writers. -/
theorem Follows.mapTracks {change : Track → Track}
    (follows : bridge.Follows participants sources)
    (sameWriters : ∀ track writer, writer ∈ (change track).writers ↔ writer ∈ track.writers)
    (sameRoutes : next.routes = bridge.routes)
    (mapped : next.tracks = bridge.tracks.map fun _ track => change track) :
    next.Follows participants sources := by
  intro reader writer
  have same : next.HasWriterIn reader writer ↔ bridge.HasWriterIn reader writer := by
    simp only [HasWriterIn, mapped, TreeMap.getElem?_map, Option.map_eq_some_iff]
    constructor
    · rintro ⟨_, ⟨track, found, rfl⟩, member⟩
      exact ⟨track, found, (sameWriters track writer).mp member⟩
    · rintro ⟨track, found, member⟩
      exact ⟨_, ⟨track, found, rfl⟩, (sameWriters track writer).mpr member⟩
  rw [same, follows reader writer, RouteAllows, RouteAllows, sameRoutes]

theorem enable_follows (follows : bridge.Follows participants sources) :
    bridge.enable.Follows participants sources := by
  unfold enable
  split
  · exact follows
  · refine follows.mapTracks (fun track writer => ?_) rfl rfl
    unfold Track.enable
    split <;> simp

theorem disable_follows (follows : bridge.Follows participants sources) :
    bridge.disable.Follows participants sources := by
  unfold disable
  split
  · refine follows.mapTracks (fun track writer => ?_) rfl rfl
    unfold Track.disable
    split <;> simp
  · exact follows

theorem createAllTracks_frame (succeeded : bridge.createAllTracks environment = .ok next) :
    SameFrame bridge next ∧ (bridge.Uniform → next.Uniform) := by
  obtain ⟨_, _, created⟩ := OrderedMap.bind_eq_ok_iff.mp succeeded
  obtain ⟨_, _, added⟩ := OrderedMap.bind_eq_ok_iff.mp created
  obtain ⟨frame, _, uniform, _⟩ := addWritersToTracks_hasWriterIn added
  exact ⟨frame, uniform⟩

/-- A constructed bridge is disabled, with all its tracks. -/
theorem construct_frame {topic : DdsTopic} {routesConfig : RoutesConfiguration}
    {removeUnusedEntities : Bool}
    (succeeded : construct environment topic routesConfig removeUnusedEntities = .ok next) :
    next.topic = topic ∧ next.routes = routesConfig.routes ∧ next.enabled = false ∧
      next.Uniform := by
  have none : ({ topic := topic, routes := routesConfig.routes } : DdsBridge).Uniform := by
    intro id track found
    simp at found
  unfold construct at succeeded
  split at succeeded
  · obtain ⟨⟨sameTopic, sameRoutes, sameEnabled⟩, uniform⟩ := createWriter_frame succeeded
    exact ⟨sameTopic, sameRoutes, sameEnabled, uniform none⟩
  · obtain ⟨⟨sameTopic, sameRoutes, sameEnabled⟩, uniform⟩ := createAllTracks_frame succeeded
    exact ⟨sameTopic, sameRoutes, sameEnabled, uniform none⟩

/-- A bridge that is constructed for its discoverer has the writer of that
participant only. -/
theorem construct_follows {topic : DdsTopic} {routesConfig : RoutesConfiguration}
    (discovered : topic.topicDiscoverer ≠ defaultParticipantId)
    (succeeded : construct environment topic routesConfig true = .ok next) :
    next.Follows environment.participants fun writer => writer = topic.topicDiscoverer := by
  have none : ({ topic := topic, routes := routesConfig.routes } : DdsBridge).Follows
      environment.participants fun _ => False := by
    intro reader writer
    simp [HasWriterIn]
  unfold construct at succeeded
  rw [if_pos (by simpa using discovered)] at succeeded
  exact (createWriter_follows succeeded none).congr fun writer => by simp

end Calls

/-! ### What a call can fail with -/

section Failures

variable {environment : Environment} (never : environment.createThrows = neverThrows)

theorem getParticipant_failsOnly (environment : Environment) (id : ParticipantId) :
    OrderedMap.FailsOnly (· = Fault.nullParticipant) (environment.getParticipant id) := by
  intro fault failed
  unfold Environment.getParticipant at failed
  split at failed <;> cases failed
  rfl

include never

theorem create_failsOnly (kind : EntityKind) (id : ParticipantId) (topic : DdsTopic) :
    OrderedMap.FailsOnly (· = Fault.nullParticipant) (environment.create kind id topic) := by
  unfold Environment.create
  rw [never]
  exact OrderedMap.failsOnly_bind (getParticipant_failsOnly environment id)
    fun _ => OrderedMap.failsOnly_ok ()

theorem addWritersToTracks_failsOnly (bridge : DdsBridge) (writers : TreeMap ParticipantId Bool) :
    OrderedMap.FailsOnly (· = Fault.nullParticipant)
      (bridge.addWritersToTracks environment writers) := by
  refine OrderedMap.failsOnly_foldlM (fun current id _ => ?_) bridge
  refine OrderedMap.failsOnly_bind ?_ fun selected => ?_
  · unfold writersOfTrack
    split
    · exact OrderedMap.failsOnly_ok _
    · exact OrderedMap.failsOnly_bind (getParticipant_failsOnly environment id)
        fun _ => OrderedMap.failsOnly_ok _
  · split
    · exact OrderedMap.failsOnly_ok _
    · split
      · exact OrderedMap.failsOnly_ok _
      · exact OrderedMap.failsOnly_bind (create_failsOnly never _ _ _)
          fun _ => OrderedMap.failsOnly_ok _

theorem createWriter_failsOnly (bridge : DdsBridge) (participantId : ParticipantId) :
    OrderedMap.FailsOnly (· = Fault.nullParticipant)
      (bridge.createWriter environment participantId) :=
  OrderedMap.failsOnly_bind (create_failsOnly never _ _ _)
    fun _ => addWritersToTracks_failsOnly never _ _

theorem createAllTracks_failsOnly (bridge : DdsBridge) :
    OrderedMap.FailsOnly (· = Fault.nullParticipant) (bridge.createAllTracks environment) := by
  refine OrderedMap.failsOnly_bind (OrderedMap.failsOnly_mapM fun id _ => ?_) fun _ =>
    OrderedMap.failsOnly_bind (OrderedMap.failsOnly_forM fun id _ => create_failsOnly never _ _ _)
      fun _ => addWritersToTracks_failsOnly never _ _
  unfold writersToCreate
  split
  · exact OrderedMap.failsOnly_ok _
  · exact OrderedMap.failsOnly_bind (getParticipant_failsOnly environment id)
      fun _ => OrderedMap.failsOnly_ok _

/-- **Without a creation that throws**, the construction of a bridge fails only on
a participant that does not exist. -/
theorem construct_failsOnly (topic : DdsTopic) (routesConfig : RoutesConfiguration)
    (removeUnusedEntities : Bool) :
    OrderedMap.FailsOnly (· = Fault.nullParticipant)
      (construct environment topic routesConfig removeUnusedEntities) := by
  unfold construct
  dsimp only
  split
  · exact createWriter_failsOnly never _ _
  · exact createAllTracks_failsOnly never _

end Failures

end DdsBridge

end DdsPipe.Communication
