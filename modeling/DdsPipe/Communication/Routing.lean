import DdsPipe.Communication.DdsBridge
import DdsPipe.Library.TransitionSystem

/-!
Owns the routing of one bridge over its whole life: which tracks it has and
which writers are in them, after any calls on a bridge of either construction
path; and that both paths lead to the same tracks.

Owns what a valid configuration of the routes guarantees to the bridges.

Does not own: creations that throw, which end a run.
-/

namespace DdsPipe.Communication

open Std (TreeMap TreeSet)
open DdsPipe.Types DdsPipe.Configuration
open TransitionSystem (System)

/-! ### Valid routes -/

def IsRepeater (participants : ParticipantsDatabase) (id : ParticipantId) : Prop :=
  ∃ participant, participants[id]? = some participant ∧ participant.isRepeater = true

/-- The routes name only participants, and lead back to their source only where
that is a repeater. -/
structure ValidRoutes (participants : ParticipantsDatabase)
    (routes : TreeMap ParticipantId (TreeSet ParticipantId)) : Prop where
  sources : ∀ (source : ParticipantId) (route : TreeSet ParticipantId),
    routes[source]? = some route → source ∈ participants
  destinations : ∀ (source : ParticipantId) (route : TreeSet ParticipantId),
    routes[source]? = some route → ∀ destination ∈ route, destination ∈ participants
  repeaters : ∀ (source : ParticipantId) (route : TreeSet ParticipantId),
    routes[source]? = some route → source ∈ route → IsRepeater participants source

theorem getElem?_getParticipantsRepeaterMap (participants : ParticipantsDatabase)
    (id : ParticipantId) : participants.getParticipantsRepeaterMap[id]? =
      participants[id]?.map fun participant => participant.isRepeater := by
  rw [ParticipantsDatabase.getParticipantsRepeaterMap, TreeMap.getElem?_map]

/-- **The check of the routes** accepts exactly the valid ones. -/
theorem isValid_iff_validRoutes {participants : ParticipantsDatabase}
    {configuration : RoutesConfiguration} :
    configuration.isValid participants.getParticipantsRepeaterMap = .ok () ↔
      ValidRoutes participants configuration.routes := by
  have destination : ∀ source isRepeater dst,
      RoutesConfiguration.checkDestination participants.getParticipantsRepeaterMap source
        isRepeater dst = .ok () ↔ dst ∈ participants ∧ (dst = source → isRepeater = true) := by
    intro source isRepeater dst
    have known : participants.getParticipantsRepeaterMap.contains dst = true ↔
        dst ∈ participants := by
      rw [ParticipantsDatabase.getParticipantsRepeaterMap, TreeMap.contains_map,
        TreeMap.mem_iff_contains]
    unfold RoutesConfiguration.checkDestination
    split
    · next absent =>
        rw [Bool.not_eq_true', ← Bool.not_eq_true, known] at absent
        simp [absent]
    · next present =>
        rw [Bool.not_eq_true', Bool.not_eq_false, known] at present
        split
        · next own =>
            rw [Bool.and_eq_true, beq_iff_eq, Bool.not_eq_true'] at own
            simp [own.1, own.2]
        · next fine =>
            rw [Bool.and_eq_true, beq_iff_eq, Bool.not_eq_true', not_and, Bool.not_eq_false] at fine
            simp [present]
            exact fine
  have route : ∀ entry : ParticipantId × TreeSet ParticipantId,
      RoutesConfiguration.checkRoute participants.getParticipantsRepeaterMap entry = .ok () ↔
        ∃ participant, participants[entry.1]? = some participant ∧ ∀ dst ∈ entry.2,
          dst ∈ participants ∧ (dst = entry.1 → participant.isRepeater = true) := by
    intro entry
    unfold RoutesConfiguration.checkRoute
    rw [getElem?_getParticipantsRepeaterMap]
    cases participants[entry.1]? with
    | none => simp
    | some participant =>
        simp only [Option.map_some, Option.some.injEq, exists_eq_left']
        rw [OrderedMap.forM_eq_ok_iff]
        simp only [TreeSet.mem_toList, destination]
  rw [RoutesConfiguration.isValid, OrderedMap.forM_eq_ok_iff]
  simp only [route, Prod.forall, TreeMap.mem_toList_iff_getElem?_eq_some]
  constructor
  · intro checked
    refine ⟨fun source route found => ?_, fun source route found dst member => ?_,
      fun source route found member => ?_⟩
    · obtain ⟨participant, known, _⟩ := checked source route found
      exact OrderedMap.mem_iff_exists_getElem?.mpr ⟨participant, known⟩
    · obtain ⟨_, _, destinations⟩ := checked source route found
      exact (destinations dst member).1
    · obtain ⟨participant, known, destinations⟩ := checked source route found
      exact ⟨participant, known, (destinations source member).2 rfl⟩
  · intro valid source route found
    obtain ⟨participant, known⟩ :=
      OrderedMap.mem_iff_exists_getElem?.mp (valid.sources source route found)
    refine ⟨participant, known, fun dst member =>
      ⟨valid.destinations source route found dst member, ?_⟩⟩
    rintro rfl
    obtain ⟨other, same, repeater⟩ := valid.repeaters _ route found member
    rw [known] at same
    cases same
    exact repeater

/-! ### Writers follow their bridge -/

/-- The writers in the tracks are enabled when the bridge is, and disabled when
it is not. -/
def DdsBridge.WritersUniform (bridge : DdsBridge) : Prop :=
  ∀ (id : ParticipantId) (track : Track), bridge.tracks[id]? = some track →
    ∀ (writer : ParticipantId) (flag : Bool), track.writers[writer]? = some flag →
      flag = bridge.enabled

/-- The writers have been created, and not yet enabled. -/
def Created (writers : TreeMap ParticipantId Bool) : Prop :=
  ∀ (writer : ParticipantId) (flag : Bool), writers[writer]? = some flag → flag = false

theorem Track.writersUniform_addMissingWriters (track : Track)
    {writers : TreeMap ParticipantId Bool} (created : Created writers)
    (uniform : ∀ (writer : ParticipantId) (flag : Bool), track.writers[writer]? = some flag →
      flag = track.enabled) (writer : ParticipantId) (flag : Bool)
    (found : (track.addMissingWriters writers).writers[writer]? = some flag) :
    flag = track.enabled := by
  have all : ∀ entry ∈ writers.toList, entry.2 = false := by
    rintro ⟨id, value⟩ member
    exact created id value (TreeMap.mem_toList_iff_getElem?_eq_some.mp member)
  rw [addMissingWriters, TreeMap.foldl_eq_foldl_toList] at found
  generalize writers.toList = entries at all found
  induction entries generalizing track with
  | nil => exact uniform writer flag found
  | cons entry rest inductionHypothesis =>
      rw [List.foldl_cons] at found
      have later := fun other member => all other (List.mem_cons_of_mem _ member)
      split at found
      · exact inductionHypothesis track uniform later found
      · refine inductionHypothesis (track.addWriter entry.1 entry.2) ?_ later found
        intro other value there
        show value = track.enabled
        by_cases same : other = entry.1
        · subst same
          rw [addWriter, TreeMap.getElem?_insert_self, all entry List.mem_cons_self,
            Bool.or_false] at there
          exact (Option.some.inj there).symm
        · rw [addWriter, OrderedMap.getElem?_insert_of_ne same] at there
          exact uniform other value there

namespace DdsBridge

variable {environment : Environment} {participants : ParticipantsDatabase}
  {bridge next : DdsBridge} {id : ParticipantId}

theorem created_writersOfTrack {writers selected : TreeMap ParticipantId Bool}
    (created : Created writers)
    (succeeded : bridge.writersOfTrack environment writers id = .ok selected) :
    Created selected := by
  intro writer flag found
  unfold writersOfTrack at succeeded
  split at succeeded
  · cases succeeded
    rw [TreeMap.getElem?_filter', Option.filter_eq_some_iff] at found
    exact created writer flag found.1
  · obtain ⟨participant, _, chosen⟩ := OrderedMap.bind_eq_ok_iff.mp succeeded
    cases chosen
    split at found
    · exact created writer flag found
    · by_cases same : writer = id
      · subst same
        rw [TreeMap.getElem?_erase_self] at found
        cases found
      · rw [OrderedMap.getElem?_erase_of_ne same] at found
        exact created writer flag found

theorem writersUniform_addWritersToTrack {writers : TreeMap ParticipantId Bool}
    (created : Created writers) (uniform : bridge.Uniform) (writersUniform : bridge.WritersUniform)
    (succeeded : addWritersToTrack environment writers bridge id = .ok next) :
    next.WritersUniform := by
  unfold addWritersToTrack at succeeded
  obtain ⟨selected, chosen, continued⟩ := OrderedMap.bind_eq_ok_iff.mp succeeded
  have created := created_writersOfTrack created chosen
  split at continued
  · cases continued
    exact writersUniform
  · split at continued
    · next track found =>
        cases continued
        intro other changed there writer flag writerThere
        by_cases same : other = id
        · subst same
          rw [TreeMap.getElem?_insert_self] at there
          cases there
          have running := (uniform other track found).1
          rw [← running]
          refine Track.writersUniform_addMissingWriters track created (fun writer flag before => ?_)
            writer flag writerThere
          rw [running]
          exact writersUniform other track found writer flag before
        · rw [OrderedMap.getElem?_insert_of_ne same] at there
          exact writersUniform other changed there writer flag writerThere
    · obtain ⟨_, _, added⟩ := OrderedMap.bind_eq_ok_iff.mp continued
      cases added
      intro other changed there writer flag writerThere
      by_cases same : other = id
      · subst same
        rw [TreeMap.getElem?_insert_self] at there
        cases there
        show flag = bridge.enabled
        cases running : bridge.enabled with
        | false =>
            rw [running] at writerThere
            exact created writer flag writerThere
        | true =>
            rw [running] at writerThere
            simp only [if_true, Track.enable, Bool.false_eq_true, if_false, TreeMap.getElem?_map,
              Option.map_eq_some_iff] at writerThere
            obtain ⟨_, _, enabled⟩ := writerThere
            exact enabled.symm
      · rw [OrderedMap.getElem?_insert_of_ne same] at there
        exact writersUniform other changed there writer flag writerThere

theorem writersUniform_addWritersToTracks {writers : TreeMap ParticipantId Bool}
    (created : Created writers) (uniform : bridge.Uniform) (writersUniform : bridge.WritersUniform)
    (succeeded : bridge.addWritersToTracks environment writers = .ok next) :
    next.WritersUniform := by
  unfold addWritersToTracks at succeeded
  generalize environment.participants.getParticipantsIds = ids at succeeded
  induction ids generalizing bridge with
  | nil =>
      cases succeeded
      exact writersUniform
  | cons id rest inductionHypothesis =>
      rw [List.foldlM_cons] at succeeded
      obtain ⟨middle, first, remaining⟩ := OrderedMap.bind_eq_ok_iff.mp succeeded
      refine inductionHypothesis ?_
        (writersUniform_addWritersToTrack created uniform writersUniform first) remaining
      obtain ⟨⟨_, _, sameEnabled⟩, ⟨_, running, _⟩, others⟩ := addWritersToTrack_gains first
      intro other track found
      rw [sameEnabled]
      by_cases same : other = id
      · subst same
        exact running (uniform other) track found
      · rw [others other same] at found
        exact uniform other track found

end DdsBridge

/-! ### The routing of a bridge -/

/-- The participants that the samples of `source` go to: those of its route or,
without one, all of them, and back to itself only if it is a repeater. -/
def Destination (participants : ParticipantsDatabase)
    (routes : TreeMap ParticipantId (TreeSet ParticipantId))
    (source destination : ParticipantId) : Prop :=
  match routes[source]? with
  | some route => destination ∈ route
  | none => destination ∈ participants ∧
      (destination ≠ source ∨ IsRepeater participants source)

/-- The tracks of a bridge for which the writers of `created` exist. -/
structure Routed (participants : ParticipantsDatabase)
    (routes : TreeMap ParticipantId (TreeSet ParticipantId)) (bridge : DdsBridge)
    (created : TreeSet ParticipantId) : Prop where
  tracks : ∀ source, source ∈ bridge.tracks ↔ source ∈ participants ∧
    ∃ writer, Destination participants routes source writer ∧ writer ∈ created
  writers : ∀ (source : ParticipantId) (track : Track), bridge.tracks[source]? = some track →
    ∀ writer, writer ∈ track.writers ↔
      Destination participants routes source writer ∧ writer ∈ created
  enabled : bridge.enabled = true → ∀ (source : ParticipantId) (track : Track),
    bridge.tracks[source]? = some track → track.enabled = true ∧ track.readerEnabled = true ∧
      ∀ (writer : ParticipantId) (flag : Bool), track.writers[writer]? = some flag → flag = true
  disabled : bridge.enabled = false → ∀ (source : ParticipantId) (track : Track),
    bridge.tracks[source]? = some track → track.enabled = false

/-- What every call on a bridge keeps. -/
structure Keeps (participants : ParticipantsDatabase)
    (routes : TreeMap ParticipantId (TreeSet ParticipantId)) (bridge : DdsBridge)
    (created : TreeSet ParticipantId) : Prop where
  routes : bridge.routes = routes
  known : ∀ id, id ∈ created → id ∈ participants
  follows : bridge.Follows participants (· ∈ created)
  inhabited : bridge.Inhabited
  uniform : bridge.Uniform
  writersUniform : bridge.WritersUniform

variable {participants : ParticipantsDatabase} {environment : Environment}
  {routes : TreeMap ParticipantId (TreeSet ParticipantId)} {bridge next : DdsBridge}
  {created : TreeSet ParticipantId} {id : ParticipantId}

theorem destination_iff_routeAllows {source writer : ParticipantId}
    (known : writer ∈ participants) :
    Destination participants bridge.routes source writer ↔
      bridge.RouteAllows participants source writer := by
  unfold Destination DdsBridge.RouteAllows IsRepeater
  rcases found : bridge.routes[source]? with _ | route
  · simp only [known, true_and]
  · exact Iff.rfl

theorem Keeps.routed (keeps : Keeps participants routes bridge created) :
    Routed participants routes bridge created := by
  obtain ⟨rfl, known, follows, inhabited, uniform, writersUniform⟩ := keeps
  have has : ∀ source writer, bridge.HasWriterIn source writer ↔ source ∈ participants ∧
      Destination participants bridge.routes source writer ∧ writer ∈ created := by
    intro source writer
    rw [follows source writer]
    constructor
    · rintro ⟨participant, made, allowed⟩
      exact ⟨participant, (destination_iff_routeAllows (known writer made)).mpr allowed, made⟩
    · rintro ⟨participant, destination, made⟩
      exact ⟨participant, made, (destination_iff_routeAllows (known writer made)).mp destination⟩
  refine ⟨fun source => ?_, fun source track found writer => ?_,
    fun running source track found => ?_, fun stopped source track found => ?_⟩
  · rw [OrderedMap.mem_iff_exists_getElem?]
    constructor
    · rintro ⟨track, found⟩
      obtain ⟨writer, member⟩ := inhabited source track found
      obtain ⟨participant, destination⟩ := (has source writer).mp ⟨track, found, member⟩
      exact ⟨participant, writer, destination⟩
    · rintro ⟨participant, writer, destination⟩
      obtain ⟨track, found, _⟩ := (has source writer).mpr ⟨participant, destination⟩
      exact ⟨track, found⟩
  · constructor
    · intro member
      exact ((has source writer).mp ⟨track, found, member⟩).2
    · intro destination
      have participant : source ∈ participants := by
        obtain ⟨other, member⟩ := inhabited source track found
        exact ((has source other).mp ⟨track, found, member⟩).1
      obtain ⟨same, there, member⟩ := (has source writer).mpr ⟨participant, destination⟩
      rw [found] at there
      cases there
      exact member
  · obtain ⟨trackEnabled, readerEnabled⟩ := uniform source track found
    rw [running] at trackEnabled readerEnabled
    refine ⟨trackEnabled, readerEnabled, fun writer flag there => ?_⟩
    rw [writersUniform source track found writer flag there, running]
  · rw [(uniform source track found).1, stopped]

/-! ### What each call keeps -/

theorem keeps_bare (participants : ParticipantsDatabase) (topic : DdsTopic)
    (routes : TreeMap ParticipantId (TreeSet ParticipantId)) :
    Keeps participants routes { topic := topic, routes := routes } ∅ where
  routes := rfl
  known := by simp
  follows reader writer := by simp [DdsBridge.HasWriterIn]
  inhabited id track found := by simp at found
  uniform id track found := by simp at found
  writersUniform id track found := by simp at found

theorem Keeps.congr {other : TreeSet ParticipantId}
    (keeps : Keeps participants routes bridge created)
    (same : ∀ id, id ∈ created ↔ id ∈ other) : Keeps participants routes bridge other :=
  { keeps with
    known := fun id member => keeps.known id ((same id).mpr member)
    follows := keeps.follows.congr same }

theorem keeps_createWriter (keeps : Keeps environment.participants routes bridge created)
    (member : id ∈ environment.participants)
    (succeeded : bridge.createWriter environment id = .ok next) :
    Keeps environment.participants routes next (created.insert id) := by
  have follows := DdsBridge.createWriter_follows succeeded keeps.follows
  obtain ⟨⟨_, sameRoutes, _⟩, uniform⟩ := DdsBridge.createWriter_frame succeeded
  obtain ⟨_, _, added⟩ := OrderedMap.bind_eq_ok_iff.mp succeeded
  have made : Created (TreeMap.ofList ([id].map fun writer => (writer, false))) :=
    fun writer flag found => OrderedMap.eq_of_getElem?_ofList found
  refine ⟨sameRoutes.trans keeps.routes, fun other made => ?_, follows.congr fun writer => ?_,
    (DdsBridge.addWritersToTracks_hasWriterIn added).2.2.2 keeps.inhabited, uniform keeps.uniform,
    DdsBridge.writersUniform_addWritersToTracks made keeps.uniform keeps.writersUniform added⟩
  · rw [TreeSet.mem_insert, Std.compare_eq_iff_eq] at made
    rcases made with rfl | before
    · exact member
    · exact keeps.known other before
  · rw [TreeSet.mem_insert, Std.compare_eq_iff_eq, or_comm, eq_comm]

theorem keeps_removeWriter (keeps : Keeps participants routes bridge created) :
    Keeps participants routes (bridge.removeWriter id) (created.erase id) := by
  have remains : ∀ {source : ParticipantId} {track : Track},
      (bridge.removeWriter id).tracks[source]? = some track →
        ∃ old : Track, bridge.tracks[source]? = some old ∧ track = old.removeWriter id ∧
          track.hasWriters = true := by
    intro source track found
    rw [DdsBridge.removeWriter, TreeMap.getElem?_filterMap', Option.bind_eq_some_iff] at found
    obtain ⟨old, before, remaining⟩ := found
    dsimp only at remaining
    split at remaining
    · next nonempty =>
        cases remaining
        exact ⟨old, before, rfl, nonempty⟩
    · cases remaining
  refine ⟨keeps.routes, fun other made => ?_,
    (DdsBridge.removeWriter_follows keeps.follows).congr fun writer => ?_,
    fun source track found => ?_, DdsBridge.removeWriter_uniform keeps.uniform,
    fun source track found writer flag there => ?_⟩
  · rw [TreeSet.mem_erase] at made
    exact keeps.known other made.2
  · rw [TreeSet.mem_erase, and_comm]
    simp only [ne_eq, Std.compare_eq_iff_eq, @eq_comm _ writer]
  · obtain ⟨_, _, _, nonempty⟩ := remains found
    by_contra empty
    rw [Track.hasWriters, decide_eq_true_eq, gt_iff_lt, Nat.pos_iff_ne_zero, Ne,
      OrderedMap.size_eq_zero_iff] at nonempty
    exact nonempty fun writer member => empty ⟨writer, member⟩
  · obtain ⟨old, before, rfl, _⟩ := remains found
    by_cases same : writer = id
    · subst same
      rw [Track.removeWriter, TreeMap.getElem?_erase_self] at there
      cases there
    · rw [Track.removeWriter, OrderedMap.getElem?_erase_of_ne same] at there
      exact keeps.writersUniform source old before writer flag there

/-- What switching all tracks keeps. -/
theorem Keeps.switch (keeps : Keeps participants routes bridge created)
    (sameRoutes : next.routes = bridge.routes) (follows : next.Follows participants (· ∈ created))
    (uniform : next.Uniform)
    (switched : ∀ (source : ParticipantId) (track : Track), next.tracks[source]? = some track →
      ∃ old : Track, bridge.tracks[source]? = some old ∧
        track.writers = old.writers.map fun _ _ => next.enabled) :
    Keeps participants routes next created := by
  refine ⟨sameRoutes.trans keeps.routes, keeps.known, follows,
    fun source track found => ?_, uniform, fun source track found writer flag there => ?_⟩
  · obtain ⟨old, before, same⟩ := switched source track found
    obtain ⟨writer, member⟩ := keeps.inhabited source old before
    refine ⟨writer, ?_⟩
    rw [same, TreeMap.mem_map]
    exact member
  · obtain ⟨old, _, same⟩ := switched source track found
    rw [same, TreeMap.getElem?_map, Option.map_eq_some_iff] at there
    obtain ⟨_, _, flagged⟩ := there
    exact flagged.symm

theorem keeps_enable (keeps : Keeps participants routes bridge created) :
    Keeps participants routes bridge.enable created := by
  by_cases running : bridge.enabled = true
  · rw [DdsBridge.enable, if_pos running]
    exact keeps
  · refine keeps.switch ?_ (DdsBridge.enable_follows keeps.follows)
      (DdsBridge.enable_uniform keeps.uniform) fun source track found => ?_
    · rw [DdsBridge.enable, if_neg running]
    · rw [DdsBridge.enabled_enable]
      rw [DdsBridge.enable, if_neg running, TreeMap.getElem?_map, Option.map_eq_some_iff] at found
      obtain ⟨old, before, rfl⟩ := found
      refine ⟨old, before, ?_⟩
      rw [Track.enable, if_neg]
      rw [(keeps.uniform source old before).1]
      exact running

theorem keeps_disable (keeps : Keeps participants routes bridge created) :
    Keeps participants routes bridge.disable created := by
  by_cases running : bridge.enabled = true
  · refine keeps.switch ?_ (DdsBridge.disable_follows keeps.follows)
      (DdsBridge.disable_uniform keeps.uniform) fun source track found => ?_
    · rw [DdsBridge.disable, if_pos running]
    · rw [DdsBridge.enabled_disable]
      rw [DdsBridge.disable, if_pos running, TreeMap.getElem?_map, Option.map_eq_some_iff] at found
      obtain ⟨old, before, rfl⟩ := found
      refine ⟨old, before, ?_⟩
      rw [Track.disable, if_pos]
      rw [(keeps.uniform source old before).1]
      exact running
  · rw [DdsBridge.disable, if_neg running]
    exact keeps

theorem mem_writersToCreate {needed : List ParticipantId}
    (succeeded : bridge.writersToCreate environment id = .ok needed) (writer : ParticipantId) :
    writer ∈ needed ↔ Destination environment.participants bridge.routes id writer := by
  unfold DdsBridge.writersToCreate at succeeded
  unfold Destination
  rcases found : bridge.routes[id]? with _ | route
  · rw [found] at succeeded
    obtain ⟨participant, known, chosen⟩ := OrderedMap.bind_eq_ok_iff.mp succeeded
    unfold Environment.getParticipant at known
    split at known
    · next stored there =>
        cases known
        cases chosen
        simp only [IsRepeater, there, Option.some.injEq, exists_eq_left']
        cases participant.isRepeater with
        | true => simp [ParticipantsDatabase.getParticipantsIds]
        | false =>
            rw [if_neg Bool.false_ne_true, ParticipantsDatabase.getParticipantsIds,
              TreeMap.nodup_keys.mem_erase_iff, TreeMap.mem_keys, and_comm]
            simp only [Bool.false_eq_true, or_false]
    · cases known
  · rw [found] at succeeded
    cases succeeded
    exact TreeSet.mem_toList

theorem created_ofList (ids : List ParticipantId) :
    Created (TreeMap.ofList (ids.map fun writer => (writer, false))) :=
  fun _ _ found => OrderedMap.eq_of_getElem?_ofList found

/-- The writers that creating all tracks creates. -/
theorem mem_ofList_writersToCreate {needed : List (List ParticipantId)}
    (chosen : environment.participants.getParticipantsIds.mapM
      (bridge.writersToCreate environment) = .ok needed) (writer : ParticipantId) :
    writer ∈ TreeMap.ofList (needed.flatten.map fun id => (id, false)) ↔
      ∃ source ∈ environment.participants,
        Destination environment.participants bridge.routes source writer := by
  rw [TreeMap.mem_ofList, List.contains_iff_mem, List.map_map]
  show writer ∈ needed.flatten.map (fun id => id) ↔ _
  rw [List.map_id', OrderedMap.mem_flatten_of_mapM chosen]
  constructor
  · rintro ⟨source, member, part, executed, there⟩
    exact ⟨source, TreeMap.mem_keys.mp member, (mem_writersToCreate executed writer).mp there⟩
  · rintro ⟨source, member, leads⟩
    obtain ⟨part, executed⟩ := OrderedMap.exists_of_mapM chosen source (TreeMap.mem_keys.mpr member)
    exact ⟨source, TreeMap.mem_keys.mpr member, part, executed,
      (mem_writersToCreate executed writer).mpr leads⟩

theorem destination_mem (valid : ValidRoutes participants routes) {source writer : ParticipantId}
    (leads : Destination participants routes source writer) : writer ∈ participants := by
  unfold Destination at leads
  split at leads
  · next route found => exact valid.destinations source route found writer leads
  · exact leads.1

/-- The set of all participants. -/
def everyone (participants : ParticipantsDatabase) : TreeSet ParticipantId :=
  TreeSet.ofList participants.getParticipantsIds

theorem mem_everyone : id ∈ everyone participants ↔ id ∈ participants := by
  rw [everyone, TreeSet.mem_ofList, List.contains_iff_mem, ParticipantsDatabase.getParticipantsIds,
    TreeMap.mem_keys]

theorem keeps_createAllTracks (valid : ValidRoutes environment.participants routes)
    (keeps : Keeps environment.participants routes bridge ∅)
    (succeeded : bridge.createAllTracks environment = .ok next) :
    Keeps environment.participants routes next (everyone environment.participants) := by
  obtain ⟨needed, chosen, continued⟩ := OrderedMap.bind_eq_ok_iff.mp succeeded
  obtain ⟨_, _, added⟩ := OrderedMap.bind_eq_ok_iff.mp continued
  obtain ⟨⟨_, sameRoutes, _⟩, has, uniform, inhabited⟩ :=
    DdsBridge.addWritersToTracks_hasWriterIn added
  refine ⟨sameRoutes.trans keeps.routes, fun other member => mem_everyone.mp member,
    fun reader writer => ?_, inhabited keeps.inhabited, uniform keeps.uniform,
    DdsBridge.writersUniform_addWritersToTracks (created_ofList _) keeps.uniform
      keeps.writersUniform added⟩
  have none : ¬ bridge.HasWriterIn reader writer := by
    rw [keeps.follows reader writer]
    simp
  have sameAllowed : next.RouteAllows environment.participants reader writer ↔
      bridge.RouteAllows environment.participants reader writer := by
    rw [DdsBridge.RouteAllows, DdsBridge.RouteAllows, sameRoutes]
  rw [has, sameAllowed, mem_ofList_writersToCreate chosen, keeps.routes]
  show _ ↔ _ ∧ writer ∈ everyone environment.participants ∧ _
  rw [mem_everyone]
  constructor
  · rintro (there | ⟨here, ⟨source, _, leads⟩, allowed⟩)
    · exact absurd there none
    · exact ⟨here, destination_mem valid leads, allowed⟩
  · rintro ⟨here, known, allowed⟩
    refine .inr ⟨here, ⟨reader, here, ?_⟩, allowed⟩
    rw [← keeps.routes]
    exact (destination_iff_routeAllows known).mpr allowed

/-! ### What a call on participants can fail with -/

section Failures

variable {topic : DdsTopic}

theorem failsOnly_getParticipant (known : id ∈ environment.participants) :
    OrderedMap.FailsOnly (· = Fault.initializationException) (environment.getParticipant id) := by
  obtain ⟨participant, found⟩ := OrderedMap.mem_iff_exists_getElem?.mp known
  rw [Environment.getParticipant, found]
  exact OrderedMap.failsOnly_ok participant

theorem failsOnly_create (known : id ∈ environment.participants) (kind : EntityKind) :
    OrderedMap.FailsOnly (· = Fault.initializationException)
      (environment.create kind id topic) := by
  refine OrderedMap.failsOnly_bind (failsOnly_getParticipant known) fun _ fault failed => ?_
  split at failed
  · cases failed
    rfl
  · cases failed

theorem failsOnly_addWritersToTracks (writers : TreeMap ParticipantId Bool) :
    OrderedMap.FailsOnly (· = Fault.initializationException)
      (bridge.addWritersToTracks environment writers) := by
  refine OrderedMap.failsOnly_foldlM (fun current id member => ?_) bridge
  have known := TreeMap.mem_keys.mp member
  refine OrderedMap.failsOnly_bind ?_ fun selected => ?_
  · unfold DdsBridge.writersOfTrack
    split
    · exact OrderedMap.failsOnly_ok _
    · exact OrderedMap.failsOnly_bind (failsOnly_getParticipant known)
        fun _ => OrderedMap.failsOnly_ok _
  · split
    · exact OrderedMap.failsOnly_ok _
    · split
      · exact OrderedMap.failsOnly_ok _
      · exact OrderedMap.failsOnly_bind (failsOnly_create known _)
          fun _ => OrderedMap.failsOnly_ok _

theorem failsOnly_createWriter (known : id ∈ environment.participants) :
    OrderedMap.FailsOnly (· = Fault.initializationException)
      (bridge.createWriter environment id) :=
  OrderedMap.failsOnly_bind (failsOnly_create known _) fun _ => failsOnly_addWritersToTracks _

theorem failsOnly_createAllTracks (valid : ValidRoutes environment.participants bridge.routes) :
    OrderedMap.FailsOnly (· = Fault.initializationException)
      (bridge.createAllTracks environment) := by
  intro fault failed
  unfold DdsBridge.createAllTracks at failed
  have sources : OrderedMap.FailsOnly (· = Fault.initializationException)
      (environment.participants.getParticipantsIds.mapM (bridge.writersToCreate environment)) := by
    refine OrderedMap.failsOnly_mapM fun source member => ?_
    unfold DdsBridge.writersToCreate
    split
    · exact OrderedMap.failsOnly_ok _
    · exact OrderedMap.failsOnly_bind (failsOnly_getParticipant (TreeMap.mem_keys.mp member))
        fun _ => OrderedMap.failsOnly_ok _
  cases chosen : environment.participants.getParticipantsIds.mapM
      (bridge.writersToCreate environment) with
  | error cause =>
      rw [chosen] at failed
      cases failed
      exact sources fault chosen
  | ok needed =>
      rw [chosen] at failed
      refine OrderedMap.failsOnly_bind (OrderedMap.failsOnly_forM fun writer member => ?_)
        (fun _ => failsOnly_addWritersToTracks _) fault failed
      obtain ⟨source, _, leads⟩ :=
        (mem_ofList_writersToCreate chosen writer).mp (TreeMap.mem_keys.mp member)
      exact failsOnly_create (destination_mem valid leads) _

theorem failsOnly_construct {routesConfig : RoutesConfiguration} {removeUnusedEntities : Bool}
    (valid : ValidRoutes environment.participants routesConfig.routes)
    (discoverer : topic.topicDiscoverer = defaultParticipantId ∨
      topic.topicDiscoverer ∈ environment.participants) :
    OrderedMap.FailsOnly (· = Fault.initializationException)
      (DdsBridge.construct environment topic routesConfig removeUnusedEntities) := by
  unfold DdsBridge.construct
  dsimp only
  split
  · next initial =>
      rw [Bool.and_eq_true, bne_iff_ne] at initial
      exact failsOnly_createWriter (discoverer.resolve_left initial.2)
  · exact failsOnly_createAllTracks valid

end Failures

/-! ### Runs of one bridge -/

inductive BridgeCall where
  | createWriter (id : ParticipantId)
  | removeWriter (id : ParticipantId)
  | enable
  | disable
deriving DecidableEq, Repr

namespace BridgeCall

def perform (environment : Environment) (bridge : DdsBridge) : BridgeCall → Except Fault DdsBridge
  | createWriter id => bridge.createWriter environment id
  | removeWriter id => .ok (bridge.removeWriter id)
  | enable => .ok bridge.enable
  | disable => .ok bridge.disable

/-- The participants whose writer exists after the call. -/
def record (created : TreeSet ParticipantId) : BridgeCall → TreeSet ParticipantId
  | createWriter id => created.insert id
  | removeWriter id => created.erase id
  | enable => created
  | disable => created

/-- The call creates no writer of a participant that does not exist. -/
def OfParticipants (participants : ParticipantsDatabase) : BridgeCall → Prop
  | createWriter id => id ∈ participants
  | removeWriter _ => True
  | enable => True
  | disable => True

end BridgeCall

/-- A call, and which of the entities it asks for cannot be created. -/
structure BridgeEvent where
  call : BridgeCall
  createThrows : CreateThrows := neverThrows

/-- A bridge, with the participants whose writer has been created and not
removed since. -/
structure RoutedBridge where
  bridge : DdsBridge
  created : TreeSet ParticipantId

/-- The participants whose writer the constructor creates. -/
def constructedWriters (participants : ParticipantsDatabase) (topic : DdsTopic)
    (removeUnusedEntities : Bool) : TreeSet ParticipantId :=
  if removeUnusedEntities && topic.topicDiscoverer != defaultParticipantId then
    (∅ : TreeSet ParticipantId).insert topic.topicDiscoverer
  else everyone participants

/-- The bridge of `topic`, of either construction path. -/
def RoutedBridge.construct (environment : Environment) (topic : DdsTopic)
    (routesConfig : RoutesConfiguration) (removeUnusedEntities : Bool) :
    Except Fault RoutedBridge :=
  (DdsBridge.construct environment topic routesConfig removeUnusedEntities).map fun bridge =>
    { bridge := bridge
      created := constructedWriters environment.participants topic removeUnusedEntities }

/-- All calls on the bridge of `topic`. A creation that throws ends the run. -/
def bridgeSystem (participants : ParticipantsDatabase) (topic : DdsTopic)
    (routesConfig : RoutesConfiguration) :
    System (Except Fault RoutedBridge) BridgeEvent where
  Initial state := ∃ createThrows removeUnusedEntities,
    state = RoutedBridge.construct { participants := participants, createThrows := createThrows }
      topic routesConfig removeUnusedEntities
  step state event :=
    match state with
    | .error _ => none
    | .ok routed => some ((event.call.perform
        { participants := participants, createThrows := event.createThrows } routed.bridge).map
          fun bridge => { bridge := bridge, created := event.call.record routed.created })

def OfParticipants (participants : ParticipantsDatabase) (_ : Except Fault RoutedBridge)
    (event : BridgeEvent) : Prop :=
  event.call.OfParticipants participants

theorem keeps_perform {call : BridgeCall}
    (keeps : Keeps environment.participants routes bridge created)
    (known : call.OfParticipants environment.participants)
    (succeeded : call.perform environment bridge = .ok next) :
    Keeps environment.participants routes next (call.record created) := by
  cases call with
  | createWriter id => exact keeps_createWriter keeps known succeeded
  | removeWriter id =>
      cases succeeded
      exact keeps_removeWriter keeps
  | enable =>
      cases succeeded
      exact keeps_enable keeps
  | disable =>
      cases succeeded
      exact keeps_disable keeps

theorem failsOnly_perform {call : BridgeCall}
    (known : call.OfParticipants environment.participants) :
    OrderedMap.FailsOnly (· = Fault.initializationException) (call.perform environment bridge) := by
  cases call with
  | createWriter id => exact failsOnly_createWriter known
  | removeWriter id => exact OrderedMap.failsOnly_ok _
  | enable => exact OrderedMap.failsOnly_ok _
  | disable => exact OrderedMap.failsOnly_ok _

theorem keeps_construct {topic : DdsTopic} {routesConfig : RoutesConfiguration}
    {removeUnusedEntities : Bool}
    (valid : ValidRoutes environment.participants routesConfig.routes)
    (discoverer : topic.topicDiscoverer = defaultParticipantId ∨
      topic.topicDiscoverer ∈ environment.participants)
    (succeeded : DdsBridge.construct environment topic routesConfig removeUnusedEntities =
      .ok bridge) :
    Keeps environment.participants routesConfig.routes bridge
      (constructedWriters environment.participants topic removeUnusedEntities) := by
  have bare := keeps_bare environment.participants topic routesConfig.routes
  unfold constructedWriters
  unfold DdsBridge.construct at succeeded
  dsimp only at succeeded
  split at succeeded
  · next initial =>
      rw [if_pos initial]
      rw [Bool.and_eq_true, bne_iff_ne] at initial
      exact keeps_createWriter bare (discoverer.resolve_left initial.2) succeeded
  · next all =>
      rw [if_neg all]
      exact keeps_createAllTracks valid bare succeeded

/-- The bridge is routed, unless a creation has thrown. -/
def RoutedUnlessThrown (participants : ParticipantsDatabase)
    (routes : TreeMap ParticipantId (TreeSet ParticipantId)) :
    Except Fault RoutedBridge → Prop
  | .error fault => fault = .initializationException
  | .ok routed => Routed participants routes routed.bridge routed.created

/-- The bridge keeps what every call keeps, unless a creation has thrown. -/
def KeepsUnlessThrown (participants : ParticipantsDatabase)
    (routes : TreeMap ParticipantId (TreeSet ParticipantId)) :
    Except Fault RoutedBridge → Prop
  | .error fault => fault = .initializationException
  | .ok routed => Keeps participants routes routed.bridge routed.created

theorem KeepsUnlessThrown.routed {state : Except Fault RoutedBridge}
    (keeps : KeepsUnlessThrown participants routes state) :
    RoutedUnlessThrown participants routes state := by
  cases state with
  | error fault => exact keeps
  | ok routed => exact Keeps.routed keeps

theorem keepsUnlessThrown_iff {outcome : Except Fault RoutedBridge} :
    KeepsUnlessThrown participants routes outcome ↔
      OrderedMap.FailsOnly (· = Fault.initializationException) outcome ∧
        ∀ routed, outcome = .ok routed →
          Keeps participants routes routed.bridge routed.created := by
  cases outcome with
  | error fault => simp [KeepsUnlessThrown, OrderedMap.FailsOnly]
  | ok routed => simp [KeepsUnlessThrown, OrderedMap.FailsOnly]

/-- The participants whose writers are in the track of `source`. -/
def DdsBridge.writersOf (bridge : DdsBridge) (source : ParticipantId) :
    Option (List ParticipantId) :=
  bridge.tracks[source]?.map fun track => track.writers.keys

theorem Keeps.writersOf_eq (keeps : Keeps participants routes bridge created)
    (others : Keeps participants routes next created) (source : ParticipantId) :
    bridge.writersOf source = next.writersOf source := by
  have one := keeps.routed
  have another := others.routed
  unfold DdsBridge.writersOf
  cases found : bridge.tracks[source]? with
  | none =>
      have absent : source ∉ next.tracks := by
        rw [another.tracks, ← one.tracks]
        exact OrderedMap.getElem?_eq_none_iff.mp found
      rw [OrderedMap.getElem?_eq_none_iff.mpr absent]
  | some track =>
      have present : source ∈ next.tracks := by
        rw [another.tracks, ← one.tracks]
        exact OrderedMap.mem_iff_exists_getElem?.mpr ⟨track, found⟩
      obtain ⟨other, there⟩ := OrderedMap.mem_iff_exists_getElem?.mp present
      rw [there]
      refine congrArg some (OrderedMap.keys_congr fun writer => ?_)
      rw [one.writers source track found, another.writers source other there]

theorem keeps_foldlM_createWriter {ids : List ParticipantId}
    (keeps : Keeps environment.participants routes bridge created)
    (known : ∀ id ∈ ids, id ∈ environment.participants)
    (succeeded : ids.foldlM (DdsBridge.createWriter environment) bridge = .ok next) :
    Keeps environment.participants routes next (created.insertMany ids) := by
  induction ids generalizing bridge created with
  | nil =>
      cases succeeded
      exact keeps.congr fun id => by simp
  | cons id rest inductionHypothesis =>
      rw [List.foldlM_cons] at succeeded
      obtain ⟨middle, first, remaining⟩ := OrderedMap.bind_eq_ok_iff.mp succeeded
      rw [TreeSet.insertMany_cons]
      exact inductionHypothesis (keeps_createWriter keeps (known id List.mem_cons_self) first)
        (fun other member => known other (List.mem_cons_of_mem _ member)) remaining

theorem created_of_bare {ids : List ParticipantId}
    (listed : ∀ id, id ∈ ids ↔ id ∈ participants) :
    ∀ id, id ∈ (∅ : TreeSet ParticipantId).insertMany ids ↔ id ∈ everyone participants := by
  intro id
  rw [mem_everyone, ← listed, TreeSet.mem_insertMany_list, List.contains_iff_mem]
  simp

theorem initializationException_ne {fault : Fault} (failed : fault = .initializationException) :
    ¬ fault = .nullParticipant := by
  rw [failed]
  decide

theorem exists_foldlM_createWriter (never : environment.createThrows = neverThrows)
    {ids : List ParticipantId} (known : ∀ id ∈ ids, id ∈ environment.participants)
    (bridge : DdsBridge) :
    ∃ made, ids.foldlM (DdsBridge.createWriter environment) bridge = .ok made := by
  have thrown : OrderedMap.FailsOnly (· = Fault.initializationException)
      (ids.foldlM (DdsBridge.createWriter environment) bridge) :=
    OrderedMap.failsOnly_foldlM (fun _ id member => failsOnly_createWriter (known id member)) bridge
  have missing : OrderedMap.FailsOnly (· = Fault.nullParticipant)
      (ids.foldlM (DdsBridge.createWriter environment) bridge) :=
    OrderedMap.failsOnly_foldlM (fun bridge id _ =>
      DdsBridge.createWriter_failsOnly never bridge id) bridge
  exact OrderedMap.exists_ok_of_failsOnly thrown missing fun _ => initializationException_ne

theorem exists_createAllTracks (never : environment.createThrows = neverThrows)
    (valid : ValidRoutes environment.participants bridge.routes) :
    ∃ all, bridge.createAllTracks environment = .ok all :=
  OrderedMap.exists_ok_of_failsOnly (failsOnly_createAllTracks valid)
    (DdsBridge.createAllTracks_failsOnly never bridge) fun _ => initializationException_ne

/-- **Routing.** With valid routes, the tracks of a bridge of either construction
path are, after any calls, those that the routes give the writers it has; and
the bridge that is constructed with all tracks has the tracks of the one to
which every writer is added, in any order. -/
theorem routed_of_reachable {participants : ParticipantsDatabase} {topic : DdsTopic}
    {routesConfig : RoutesConfiguration}
    (valid : routesConfig.isValid participants.getParticipantsRepeaterMap = .ok ())
    (discoverer : topic.topicDiscoverer = defaultParticipantId ∨
      topic.topicDiscoverer ∈ participants) :
    (∀ state, (bridgeSystem participants topic routesConfig).Reachable
        (OfParticipants participants) state →
      RoutedUnlessThrown participants routesConfig.routes state) ∧
    ∀ ids : List ParticipantId, (∀ id, id ∈ ids ↔ id ∈ participants) →
      ∃ all made : DdsBridge,
        DdsBridge.createAllTracks { participants := participants }
          { topic := topic, routes := routesConfig.routes } = .ok all ∧
        ids.foldlM (DdsBridge.createWriter { participants := participants })
          { topic := topic, routes := routesConfig.routes } = .ok made ∧
        ∀ source, all.writersOf source = made.writersOf source := by
  rw [isValid_iff_validRoutes] at valid
  refine ⟨fun state reached => ?_, fun ids listed => ?_⟩
  · refine KeepsUnlessThrown.routed (reached.invariant ?_ ?_)
    · rintro _ ⟨createThrows, removeUnusedEntities, rfl⟩
      refine keepsUnlessThrown_iff.mpr
        ⟨OrderedMap.failsOnly_map (failsOnly_construct valid discoverer),
          fun routed succeeded => ?_⟩
      obtain ⟨bridge, constructed, rfl⟩ := OrderedMap.map_eq_ok_iff.mp succeeded
      exact keeps_construct valid discoverer constructed
    · intro state event next keeps known taken
      cases state with
      | error fault => cases taken
      | ok routed =>
          cases taken
          refine keepsUnlessThrown_iff.mpr
            ⟨OrderedMap.failsOnly_map (failsOnly_perform known), fun after succeeded => ?_⟩
          obtain ⟨bridge, performed, rfl⟩ := OrderedMap.map_eq_ok_iff.mp succeeded
          have before : Keeps participants routesConfig.routes routed.bridge routed.created := keeps
          have created : event.call.OfParticipants participants := known
          exact keeps_perform before created performed
  · let environment : Environment := { participants := participants }
    let bare : DdsBridge := { topic := topic, routes := routesConfig.routes }
    have known : ∀ id ∈ ids, id ∈ environment.participants := fun id member => (listed id).mp member
    obtain ⟨all, constructed⟩ : ∃ all, bare.createAllTracks environment = .ok all :=
      exists_createAllTracks rfl valid
    obtain ⟨made, added⟩ := exists_foldlM_createWriter rfl known bare
    have start : Keeps environment.participants routesConfig.routes bare ∅ := keeps_bare _ _ _
    refine ⟨all, made, constructed, added, fun source => ?_⟩
    exact (keeps_createAllTracks valid start constructed).writersOf_eq
      ((keeps_foldlM_createWriter start known added).congr (created_of_bare listed)) source

/-- A repeater and two others. -/
def repeaterParticipants : ParticipantsDatabase :=
  TreeMap.ofList [("a", ({ isRepeater := true } : IParticipant)), ("b", {}), ("c", {})]

/-- The samples of `b` go to `a` only. -/
def backRoutes : RoutesConfiguration :=
  { routes := TreeMap.ofList [("b", TreeSet.ofList ["a"])] }

/-- The run that constructs the bridge with its discoverer, the repeater, and adds
the writer of `c`. -/
theorem routed_of_reachable_repeater :
    ∃ state : Except Fault RoutedBridge,
      state.toOption.any (fun routed => routed.created.contains "c") = true ∧
        RoutedUnlessThrown repeaterParticipants backRoutes.routes state := by
  let topic : DdsTopic := { topicName := "t", topicDiscoverer := "a" }
  have admitted : ∀ event ∈ [BridgeEvent.mk .enable neverThrows,
      BridgeEvent.mk (.createWriter "c") neverThrows],
      ∀ state, OfParticipants repeaterParticipants state event := by
    intro event member state
    rcases List.mem_pair.mp member with rfl | rfl
    · trivial
    · show "c" ∈ repeaterParticipants
      decide +kernel
  obtain ⟨state, reached, test⟩ := System.exists_reachable_of_run
    (bridgeSystem repeaterParticipants topic backRoutes)
    (RoutedBridge.construct { participants := repeaterParticipants } topic backRoutes true) _
    (fun state => state.toOption.any fun routed => routed.created.contains "c") admitted
    ⟨neverThrows, true, rfl⟩ (by decide +kernel)
  exact ⟨state, test,
    (routed_of_reachable (by decide +kernel) (.inr (by decide +kernel))).1 state reached⟩

/-! ### Runs of all bridges -/

/-- What the bridges are asked for. -/
inductive BridgesCall where
  | construct (topic : DdsTopic)
  | call (index : Nat) (call : BridgeCall)
deriving DecidableEq, Repr

structure BridgesEvent where
  call : BridgesCall
  createThrows : CreateThrows := neverThrows

section Bridges

variable {Filter : Type} (configuration : DdsPipeConfiguration Filter)
  (participants : ParticipantsDatabase)

/-- Constructing a bridge with the routes of its topic, and calling one of those
that exist. A bridge whose construction throws is not kept. -/
def BridgesCall.perform (environment : Environment) (bridges : List DdsBridge) :
    BridgesCall → Except Fault (List DdsBridge)
  | construct topic =>
      match DdsBridge.construct environment topic (configuration.getRoutesConfig topic)
          configuration.removeUnusedEntities with
      | .ok bridge => .ok (bridges ++ [bridge])
      | .error .initializationException => .ok bridges
      | .error fault => .error fault
  | call index bridgeCall =>
      match bridges[index]? with
      | some bridge =>
          (bridgeCall.perform environment bridge).map fun next => bridges.set index next
      | none => .ok bridges

/-- All bridges of a pipe. A call that throws ends the run. -/
def bridgesSystem : System (Except Fault (List DdsBridge)) BridgesEvent where
  Initial state := state = .ok []
  step state event :=
    match state with
    | .error _ => none
    | .ok bridges => some (event.call.perform configuration
        { participants := participants, createThrows := event.createThrows } bridges)

/-- The call is over participants of the database: a topic is discovered by one
of them or by none. -/
def BridgesCall.OfParticipants : BridgesCall → Prop
  | construct topic => topic.topicDiscoverer = defaultParticipantId ∨
      topic.topicDiscoverer ∈ participants
  | call _ bridgeCall => bridgeCall.OfParticipants participants

def AllOfParticipants (_ : Except Fault (List DdsBridge)) (event : BridgesEvent) : Prop :=
  event.call.OfParticipants participants

/-- No null participant has been dereferenced, and a participant's own writer is
in its track only if it is a repeater. -/
def Unbroken : Except Fault (List DdsBridge) → Prop
  | .error fault => fault ≠ .nullParticipant
  | .ok bridges => ∀ bridge ∈ bridges, ∀ id, ¬ IsRepeater participants id →
      ¬ bridge.HasWriterIn id id

/-- Every bridge keeps what the calls keep, for routes that are valid. -/
def AllKeep : Except Fault (List DdsBridge) → Prop
  | .error fault => fault = .initializationException
  | .ok bridges => ∀ bridge ∈ bridges, ∃ routes created,
      ValidRoutes participants routes ∧ Keeps participants routes bridge created

variable {configuration participants}

/-- **An accepted configuration** gives every topic valid routes. -/
theorem validRoutes_getRoutesConfig
    (valid : configuration.isValid participants.getParticipantsRepeaterMap = .ok ())
    (topic : DdsTopic) : ValidRoutes participants (configuration.getRoutesConfig topic).routes := by
  unfold DdsPipeConfiguration.isValid at valid
  dsimp only at valid
  split at valid
  · cases valid
  obtain ⟨_, general, topics⟩ := OrderedMap.bind_eq_ok_iff.mp valid
  unfold DdsPipeConfiguration.getRoutesConfig
  split
  · next routes found =>
      rw [TopicRoutesConfiguration.isValid, OrderedMap.forM_eq_ok_iff] at topics
      exact isValid_iff_validRoutes.mp
        (topics (_, routes) (TreeMap.mem_toList_iff_getElem?_eq_some.mpr found))
  · exact isValid_iff_validRoutes.mp general

theorem not_hasWriterIn_self (valid : ValidRoutes participants routes)
    (keeps : Keeps participants routes bridge created) (single : ¬ IsRepeater participants id) :
    ¬ bridge.HasWriterIn id id := by
  intro present
  obtain ⟨_, _, allowed⟩ := (keeps.follows id id).mp present
  unfold DdsBridge.RouteAllows at allowed
  rw [keeps.routes] at allowed
  split at allowed
  · next route found => exact single (valid.repeaters id route found allowed)
  · exact single (allowed.resolve_left fun different => different rfl)

theorem AllKeep.unbroken {state : Except Fault (List DdsBridge)}
    (keep : AllKeep participants state) : Unbroken participants state := by
  cases state with
  | error fault => exact initializationException_ne keep
  | ok bridges =>
      intro bridge member id single
      obtain ⟨routes, created, valid, keeps⟩ := keep bridge member
      exact not_hasWriterIn_self valid keeps single

theorem allKeep_perform {bridges : List DdsBridge} {call : BridgesCall}
    (valid : configuration.isValid environment.participants.getParticipantsRepeaterMap = .ok ())
    (keep : AllKeep environment.participants (.ok bridges))
    (known : call.OfParticipants environment.participants) :
    AllKeep environment.participants (call.perform configuration environment bridges) := by
  cases call with
  | construct topic =>
      have validRoutes := validRoutes_getRoutesConfig valid topic
      simp only [BridgesCall.perform]
      cases constructed : DdsBridge.construct environment topic
          (configuration.getRoutesConfig topic) configuration.removeUnusedEntities with
      | error fault =>
          cases failsOnly_construct validRoutes known fault constructed
          exact keep
      | ok bridge =>
          intro other member
          rcases List.mem_append.mp member with before | new
          · exact keep other before
          · rw [List.mem_singleton] at new
            subst new
            exact ⟨_, _, validRoutes, keeps_construct validRoutes known constructed⟩
  | call index bridgeCall =>
      simp only [BridgesCall.perform]
      cases found : bridges[index]? with
      | none => exact keep
      | some bridge =>
          obtain ⟨routes, created, validRoutes, keeps⟩ := keep bridge (List.mem_of_getElem? found)
          dsimp only
          cases performed : bridgeCall.perform environment bridge with
          | error fault => exact failsOnly_perform known fault performed
          | ok next =>
              intro other member
              rcases List.mem_or_eq_of_mem_set member with before | rfl
              · exact keep other before
              · exact ⟨routes, _, validRoutes, keeps_perform keeps known performed⟩

/-- **A validated configuration cannot break the bridges.** -/
theorem unbroken_of_reachable {Filter : Type} {configuration : DdsPipeConfiguration Filter}
    {participants : ParticipantsDatabase}
    (valid : configuration.isValid participants.getParticipantsRepeaterMap = .ok ())
    {state : Except Fault (List DdsBridge)}
    (reached : (bridgesSystem configuration participants).Reachable
      (AllOfParticipants participants) state) : Unbroken participants state := by
  refine AllKeep.unbroken (reached.invariant ?_ ?_)
  · rintro _ rfl bridge member
    cases member
  · intro state event next keep known taken
    cases state with
    | error fault => cases taken
    | ok bridges =>
        cases taken
        have before : AllKeep participants (.ok bridges) := keep
        exact allKeep_perform valid before known

/-- The routes of the topic `t` lead back to the repeater. -/
def repeaterConfiguration : DdsPipeConfiguration Unit where
  routes := backRoutes
  topicRoutes := ⟨TreeMap.ofList
    [("tpayload::rtps::v0", RoutesConfiguration.mk (TreeMap.ofList
      [("a", TreeSet.ofList ["a", "b"])]))]⟩
  removeUnusedEntities := true

/-- The run that constructs the bridge of a topic with specific routes and adds a
writer to it. -/
theorem unbroken_of_reachable_repeater :
    ∃ state : Except Fault (List DdsBridge),
      state.toOption.any (fun bridges => bridges.length == 1) = true ∧
        Unbroken repeaterParticipants state := by
  let topic : DdsTopic := { topicName := "t", topicDiscoverer := "a" }
  have admitted : ∀ event ∈ [BridgesEvent.mk (.construct topic) neverThrows,
      BridgesEvent.mk (.call 0 (.createWriter "c")) neverThrows],
      ∀ state, AllOfParticipants repeaterParticipants state event := by
    intro event member state
    rcases List.mem_pair.mp member with rfl | rfl
    · show topic.topicDiscoverer = defaultParticipantId ∨
        topic.topicDiscoverer ∈ repeaterParticipants
      exact .inr (by decide +kernel)
    · show "c" ∈ repeaterParticipants
      decide +kernel
  obtain ⟨state, reached, test⟩ := System.exists_reachable_of_run
    (bridgesSystem repeaterConfiguration repeaterParticipants) (.ok []) _
    (fun state => state.toOption.any fun bridges => bridges.length == 1) admitted rfl
    (by decide +kernel)
  exact ⟨state, test, unbroken_of_reachable (by decide +kernel) reached⟩

end Bridges

end DdsPipe.Communication
