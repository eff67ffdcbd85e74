import DdsPipe.Library.TransitionSystem
import Mathlib.Data.List.Infix

/-!
Owns what the producers of monitoring data have in common: the calls of other
threads, which ask whether the producer is enabled before they wait for its
mutex, the sections that the mutex serialises, and the history of what has been
notified, produced and delivered.

Owns the rule by which a producer shows its history in every report: it is
enough to prove it section by section (`ProducerInterface.Faithful`).

Does not own: what a producer records, the period of the monitor, and what a
consumer does with a report.
-/

namespace DdsPipe.Monitoring

open TransitionSystem

/-! ### Producers -/

/-- What a producer has been told, in the order of its mutex: an event, or that
its report has been delivered. -/
inductive Entry (Event : Type) where
  | event (event : Event)
  | delivery
deriving DecidableEq, Repr

/-- The sections of a producer, and what they read. A consumer is what it has been
given. -/
structure ProducerInterface (Producer Event Report : Type) where
  isEnabled : Producer → Bool
  data : Producer → Report
  consumers : Producer → List (List Report)
  setEnabled : Producer → Bool → Producer
  registerConsumer : Producer → Producer
  clearConsumers : Producer → Producer
  clearData : Producer → Producer
  record : Producer → Event → Producer
  produceNts : Producer → Producer
  consumeNts : Producer → Producer

/-- The laws of a producer. `Represents` relates it to its history, and `Shows` a
report to the history that it was produced from. -/
structure ProducerInterface.Faithful {Producer Event Report : Type}
    (interface : ProducerInterface Producer Event Report)
    (Represents : List (Entry Event) → Producer → Prop)
    (Shows : List (Entry Event) → Report → Prop) : Prop where
  recorded : ∀ history producer event, Represents history producer →
    Represents (history ++ [.event event]) (interface.record producer event)
  produced : ∀ history producer, Represents history producer →
    Represents history (interface.produceNts producer)
  delivered : ∀ history producer, Represents history producer →
    Represents (history ++ [.delivery]) (interface.consumeNts producer)
  cleared : ∀ producer, Represents [] (interface.clearData producer)
  switched : ∀ history producer enabled, Represents history producer →
    Represents history (interface.setEnabled producer enabled)
  registered : ∀ history producer, Represents history producer →
    Represents history (interface.registerConsumer producer)
  unregistered : ∀ history producer, Represents history producer →
    Represents history (interface.clearConsumers producer)
  shows : ∀ history producer, Represents history producer →
    Shows history (interface.data (interface.produceNts producer))
  showsNothing : ∀ producer, Shows [] (interface.data (interface.clearData producer))
  data_record : ∀ producer event,
    interface.data (interface.record producer event) = interface.data producer
  data_consumeNts : ∀ producer,
    interface.data (interface.consumeNts producer) = interface.data producer
  data_setEnabled : ∀ producer enabled,
    interface.data (interface.setEnabled producer enabled) = interface.data producer
  data_registerConsumer : ∀ producer,
    interface.data (interface.registerConsumer producer) = interface.data producer
  data_clearConsumers : ∀ producer,
    interface.data (interface.clearConsumers producer) = interface.data producer
  consumers_record : ∀ producer event,
    interface.consumers (interface.record producer event) = interface.consumers producer
  consumers_produceNts : ∀ producer,
    interface.consumers (interface.produceNts producer) = interface.consumers producer
  consumers_consumeNts : ∀ producer, interface.consumers (interface.consumeNts producer) =
    (interface.consumers producer).map fun given => given ++ [interface.data producer]
  consumers_clearData : ∀ producer,
    interface.consumers (interface.clearData producer) = interface.consumers producer
  consumers_setEnabled : ∀ producer enabled,
    interface.consumers (interface.setEnabled producer enabled) = interface.consumers producer
  consumers_registerConsumer : ∀ producer,
    interface.consumers (interface.registerConsumer producer) = interface.consumers producer ++ [[]]
  consumers_clearConsumers : ∀ producer,
    interface.consumers (interface.clearConsumers producer) = []

/-! ### Runs -/

/-- The calls that are ignored by a disabled producer. -/
inductive GuardedCall (Event : Type) where
  | record (event : Event)
  | registerConsumer
  | produce
  | consume
  | produceAndConsume
deriving DecidableEq, Repr

/-- A guarded call is two steps: the check of `enabled_` by the calling thread, and
the section once that thread has the mutex. -/
inductive ProducerStep (Event : Type) where
  | call (call : GuardedCall Event)
  | enter (call : GuardedCall Event)
  | init (enabled : Bool)
  | enable
  | disable
  | clearConsumers
  | clearData
deriving DecidableEq, Repr

/-- A producer, the calls that have found it enabled and wait for its mutex, and
as history: what it has recorded since the data was cleared, what of that the
stored report was produced from, and every delivery beside what it was produced
from. -/
structure MonitoredRun (Producer Event Report : Type) where
  producer : Producer
  waiting : List (GuardedCall Event) := []
  accepted : List (Entry Event) := []
  produced : List (Entry Event) := []
  deliveries : List (List (Entry Event) × Report) := []

namespace MonitoredRun

variable {Producer Event Report : Type}

def produce (interface : ProducerInterface Producer Event Report)
    (state : MonitoredRun Producer Event Report) : MonitoredRun Producer Event Report :=
  { state with producer := interface.produceNts state.producer, produced := state.accepted }

def consume (interface : ProducerInterface Producer Event Report)
    (state : MonitoredRun Producer Event Report) : MonitoredRun Producer Event Report :=
  { state with
    producer := interface.consumeNts state.producer
    accepted := state.accepted ++ [.delivery]
    deliveries := state.deliveries ++ [(state.produced, interface.data state.producer)] }

/-- The section of a call. -/
def enter (interface : ProducerInterface Producer Event Report)
    (state : MonitoredRun Producer Event Report) : GuardedCall Event →
    MonitoredRun Producer Event Report
  | .record event =>
      { state with
        producer := interface.record state.producer event
        accepted := state.accepted ++ [.event event] }
  | .registerConsumer => { state with producer := interface.registerConsumer state.producer }
  | .produce => state.produce interface
  | .consume => state.consume interface
  | .produceAndConsume => (state.produce interface).consume interface

def switch (interface : ProducerInterface Producer Event Report)
    (state : MonitoredRun Producer Event Report) (enabled : Bool) :
    MonitoredRun Producer Event Report :=
  { state with producer := interface.setEnabled state.producer enabled }

def step [DecidableEq Event] (interface : ProducerInterface Producer Event Report)
    (state : MonitoredRun Producer Event Report) : ProducerStep Event →
    Option (MonitoredRun Producer Event Report)
  | .call call =>
      some (if interface.isEnabled state.producer then
        { state with waiting := state.waiting ++ [call] } else state)
  | .enter call =>
      if call ∈ state.waiting then
        some ({ state with waiting := state.waiting.erase call }.enter interface call)
      else none
  | .init enabled => some (state.switch interface enabled)
  | .enable => some (state.switch interface true)
  | .disable => some (state.switch interface false)
  | .clearConsumers => some { state with producer := interface.clearConsumers state.producer }
  | .clearData =>
      some { state with
        producer := interface.clearData state.producer, accepted := [], produced := [] }

end MonitoredRun

/-- All interleavings of the calls on one producer. -/
def producerSystem {Producer Event Report : Type} [DecidableEq Event]
    (interface : ProducerInterface Producer Event Report) (start : Producer) :
    System (MonitoredRun Producer Event Report) (ProducerStep Event) where
  Initial state := state = { producer := start }
  step := MonitoredRun.step interface

/-! ### Reports -/

/-- The stored report shows a beginning of the history, every delivered report
shows the history that it was produced from, and each consumer has been given the
latest deliveries, one by one. -/
structure MonitoredRun.Reports {Producer Event Report : Type}
    (interface : ProducerInterface Producer Event Report)
    (Shows : List (Entry Event) → Report → Prop)
    (state : MonitoredRun Producer Event Report) : Prop where
  stored : Shows state.produced (interface.data state.producer)
  beginning : state.produced <+: state.accepted
  delivered : ∀ delivery ∈ state.deliveries, Shows delivery.1 delivery.2
  given : ∀ given ∈ interface.consumers state.producer, given <:+ state.deliveries.map Prod.snd

namespace MonitoredRun

variable {Producer Event Report : Type} {interface : ProducerInterface Producer Event Report}
  {Represents : List (Entry Event) → Producer → Prop} {Shows : List (Entry Event) → Report → Prop}
  {state next : MonitoredRun Producer Event Report}

/-- What a run keeps. -/
structure Sound (interface : ProducerInterface Producer Event Report)
    (Represents : List (Entry Event) → Producer → Prop)
    (Shows : List (Entry Event) → Report → Prop)
    (state : MonitoredRun Producer Event Report) : Prop where
  represents : Represents state.accepted state.producer
  reports : state.Reports interface Shows

theorem sound_produce (faithful : interface.Faithful Represents Shows)
    (sound : state.Sound interface Represents Shows) :
    (state.produce interface).Sound interface Represents Shows where
  represents := faithful.produced _ _ sound.represents
  reports := {
    stored := faithful.shows _ _ sound.represents
    beginning := List.prefix_refl _
    delivered := sound.reports.delivered
    given := by
      intro given member
      apply sound.reports.given given
      rwa [← faithful.consumers_produceNts state.producer] }

theorem sound_consume (faithful : interface.Faithful Represents Shows)
    (sound : state.Sound interface Represents Shows) :
    (state.consume interface).Sound interface Represents Shows where
  represents := faithful.delivered _ _ sound.represents
  reports := {
    stored := by
      show Shows state.produced (interface.data (interface.consumeNts state.producer))
      rw [faithful.data_consumeNts]
      exact sound.reports.stored
    beginning := sound.reports.beginning.trans (List.prefix_append _ _)
    delivered := by
      intro delivery member
      rcases List.mem_append.mp member with before | last
      · exact sound.reports.delivered delivery before
      · rw [List.mem_singleton.mp last]
        exact sound.reports.stored
    given := by
      intro given member
      rw [consume, faithful.consumers_consumeNts] at member
      obtain ⟨before, there, rfl⟩ := List.mem_map.mp member
      have suffix := sound.reports.given before there
      show _ <:+ (state.deliveries ++ [_]).map Prod.snd
      rw [List.map_append]
      exact List.suffix_append_inj_of_length_eq rfl |>.mpr ⟨suffix, rfl⟩ }

/-- A section that touches neither the history nor the report. -/
theorem Sound.of_frame (sound : state.Sound interface Represents Shows) {after : Producer}
    (represents : Represents state.accepted after)
    (data : interface.data after = interface.data state.producer)
    (given : ∀ given ∈ interface.consumers after, given <:+ state.deliveries.map Prod.snd) :
    { state with producer := after }.Sound interface Represents Shows where
  represents := represents
  reports := {
    stored := by
      show Shows state.produced (interface.data after)
      rw [data]
      exact sound.reports.stored
    beginning := sound.reports.beginning
    delivered := sound.reports.delivered
    given := given }

theorem sound_switch (faithful : interface.Faithful Represents Shows)
    (sound : state.Sound interface Represents Shows) (enabled : Bool) :
    (state.switch interface enabled).Sound interface Represents Shows := by
  apply sound.of_frame (faithful.switched _ _ enabled sound.represents)
    (faithful.data_setEnabled _ enabled)
  rw [faithful.consumers_setEnabled]
  exact sound.reports.given

/-- Every section keeps what its producer shows. -/
theorem sound_enter (faithful : interface.Faithful Represents Shows)
    (sound : state.Sound interface Represents Shows) (call : GuardedCall Event) :
    (state.enter interface call).Sound interface Represents Shows := by
  cases call with
  | record event =>
      have represents := faithful.recorded _ _ event sound.represents
      refine ⟨represents, ?_, sound.reports.beginning.trans (List.prefix_append _ _),
        sound.reports.delivered, ?_⟩
      · show Shows state.produced (interface.data (interface.record state.producer event))
        rw [faithful.data_record]
        exact sound.reports.stored
      · show ∀ given ∈ interface.consumers (interface.record state.producer event), _
        rw [faithful.consumers_record]
        exact sound.reports.given
  | registerConsumer =>
      apply sound.of_frame (faithful.registered _ _ sound.represents)
        (faithful.data_registerConsumer _)
      intro given member
      rw [faithful.consumers_registerConsumer] at member
      rcases List.mem_append.mp member with before | last
      · exact sound.reports.given given before
      · rw [List.mem_singleton.mp last]
        exact List.nil_suffix
  | produce => exact sound_produce faithful sound
  | consume => exact sound_consume faithful sound
  | produceAndConsume => exact sound_consume faithful (sound_produce faithful sound)

theorem sound_step [DecidableEq Event] (faithful : interface.Faithful Represents Shows)
    (sound : state.Sound interface Represents Shows) {label : ProducerStep Event}
    (taken : state.step interface label = some next) :
    next.Sound interface Represents Shows := by
  cases label with
  | call call =>
      simp only [step, Option.some.injEq] at taken
      subst taken
      split
      · exact ⟨sound.represents, sound.reports.stored, sound.reports.beginning,
          sound.reports.delivered, sound.reports.given⟩
      · exact sound
  | enter call =>
      simp only [step, Option.ite_none_right_eq_some, Option.some.injEq] at taken
      obtain ⟨_, rfl⟩ := taken
      apply sound_enter faithful
      exact ⟨sound.represents, sound.reports.stored, sound.reports.beginning,
        sound.reports.delivered, sound.reports.given⟩
  | init enabled =>
      cases taken
      exact sound_switch faithful sound enabled
  | enable =>
      cases taken
      exact sound_switch faithful sound true
  | disable =>
      cases taken
      exact sound_switch faithful sound false
  | clearConsumers =>
      cases taken
      apply sound.of_frame (faithful.unregistered _ _ sound.represents)
        (faithful.data_clearConsumers _)
      rw [faithful.consumers_clearConsumers]
      simp
  | clearData =>
      cases taken
      refine ⟨faithful.cleared _, faithful.showsNothing _, List.prefix_refl _,
        sound.reports.delivered, ?_⟩
      show ∀ given ∈ interface.consumers (interface.clearData state.producer), _
      rw [faithful.consumers_clearData]
      exact sound.reports.given

end MonitoredRun

/-- **The rule of reports.** A producer whose sections show what it represents
reports its history in every interleaving. -/
theorem ProducerInterface.Faithful.reports {Producer Event Report : Type} [DecidableEq Event]
    {interface : ProducerInterface Producer Event Report}
    {Represents : List (Entry Event) → Producer → Prop}
    {Shows : List (Entry Event) → Report → Prop}
    (faithful : interface.Faithful Represents Shows) {start : Producer}
    (represents : Represents [] start) (shows : Shows [] (interface.data start))
    (unwatched : interface.consumers start = [])
    {state : MonitoredRun Producer Event Report}
    (reached : (producerSystem interface start).Reachable anyStep state) :
    state.Reports interface Shows := by
  have initially : ∀ state, (producerSystem interface start).Initial state →
      state.Sound interface Represents Shows := by
    intro state initial
    rw [show state = { producer := start } from initial]
    refine ⟨represents, shows, List.prefix_refl _, by simp, ?_⟩
    rw [unwatched]
    simp
  have kept : ∀ before label after, before.Sound interface Represents Shows →
      anyStep before label → (producerSystem interface start).step before label = some after →
      after.Sound interface Represents Shows := by
    intro before label after sound _ taken
    exact MonitoredRun.sound_step faithful sound taken
  exact (reached.invariant initially kept).reports

end DdsPipe.Monitoring
