/-
This file proves that the replicas of a last-write-wins set converge.

Replicas start empty. Each of them performs additions and removals under its own node id,
sends its state, and merges states that others have sent, in any order, late and more than
once. Beside its state a replica has the operations it has incorporated: its own, and those
of every state it has merged.

An operation takes effect at its origin or nowhere: what is not later than the write that
stands there is lost. Which operations took effect is decided once for the whole network,
and under every key a replica has the greatest of those among the operations that it has
incorporated. Two replicas with the same operations so have the same members.
-/

import Agora.Lib.Run
import Agora.Crdt.LwwElementSet

namespace Agora.Crdt

variable {Value : Type}

/-! ### The network -/

/-- A call of `add` or `remove`, with the time it took effect at. -/
structure Operation (Value : Type) where
  nodeId : String
  isAdd : Bool
  value : Value
  timestamp : Int

/-- The state of a replica, and the operations that went into it. -/
structure Replica (Value : Type) where
  set : LWWElementSet Value
  incorporated : List (Operation Value)

/-- The replicas by their node id, and the states that were sent. -/
structure Network (Value : Type) where
  replica : String → Replica Value
  sent : List (Replica Value)

inductive NetworkAction (Value : Type) where
  | add (nodeId : String) (value : Value) (timestamp : Option Int) (now : Int)
  | remove (nodeId : String) (value : Value) (timestamp : Option Int) (now : Int)
  | send (nodeId : String)
  | merge (nodeId : String) (index : Nat)

namespace Replica

def empty : Replica Value := ⟨.new, []⟩

section Calls

variable (generateKey : Value → String) (replica : Replica Value) (nodeId : String)
  (value : Value) (timestamp : Option Int) (now : Int)

def add : Replica Value where
  set := replica.set.add generateKey value nodeId timestamp now
  incorporated := ⟨nodeId, true, value, timestamp.getD now⟩ :: replica.incorporated

def remove : Replica Value where
  set := replica.set.remove generateKey value nodeId timestamp now
  incorporated := ⟨nodeId, false, value, timestamp.getD now⟩ :: replica.incorporated

end Calls

def merge (replica other : Replica Value) : Replica Value where
  set := replica.set.merge other.set
  incorporated := replica.incorporated ++ other.incorporated

/-- The same operations went into both. -/
def SameOperations (replica other : Replica Value) : Prop :=
  ∀ operation, operation ∈ replica.incorporated ↔ operation ∈ other.incorporated

end Replica

namespace Network

def fresh : Network Value := ⟨fun _ => .empty, []⟩

def update (network : Network Value) (nodeId : String) (replica : Replica Value) :
    Network Value :=
  { network with
    replica := fun other => if other = nodeId then replica else network.replica other }

/-- A state of the network: that of a replica, or one that was sent. -/
inductive Holds (network : Network Value) : Replica Value → Prop
  | replica (nodeId : String) : Holds network (network.replica nodeId)
  | sent {replica : Replica Value} (member : replica ∈ network.sent) : Holds network replica

end Network

def networkStep (generateKey : Value → String) (network : Network Value) :
    NetworkAction Value → Network Value
  | .add nodeId value timestamp now =>
    network.update nodeId ((network.replica nodeId).add generateKey nodeId value timestamp now)
  | .remove nodeId value timestamp now =>
    network.update nodeId ((network.replica nodeId).remove generateKey nodeId value timestamp now)
  | .send nodeId => { network with sent := network.sent ++ [network.replica nodeId] }
  | .merge nodeId index =>
    match network.sent[index]? with
    | some other => network.update nodeId ((network.replica nodeId).merge other)
    | none => network

/-! ### Ranks of operations -/

namespace Operation

variable (operation : Operation Value)

def rank : WithBot (Int ×ₗ Bool) :=
  ((toLex (operation.timestamp, operation.isAdd) : Int ×ₗ Bool) : WithBot (Int ×ₗ Bool))

/-- The least rank of an operation of this time. -/
def threshold : WithBot (Int ×ₗ Bool) :=
  ((toLex (operation.timestamp, false) : Int ×ₗ Bool) : WithBot (Int ×ₗ Bool))

theorem threshold_le_rank : operation.threshold ≤ operation.rank := by
  rw [threshold, rank, WithBot.coe_le_coe, Prod.Lex.toLex_le_toLex]
  exact .inr ⟨rfl, Bool.false_le _⟩

end Operation

namespace Replica

variable (generateKey : Value → String) (effective : Set (Operation Value))
  (replica : Replica Value)

/-- What the operations that took effect would leave under a key. -/
def effects (key : String) : Set (WithBot (Int ×ₗ Bool)) :=
  Operation.rank '' {operation | operation ∈ replica.incorporated ∧ operation ∈ effective ∧
    generateKey operation.value = key}

/-- A replica has, under every key, the greatest of its operations that took effect, and nothing
that it incorporated is later. -/
structure Sound : Prop where
  issued : replica.set.Issued
  reached : ∀ operation ∈ replica.incorporated,
    operation.threshold ≤ replica.set.standing (generateKey operation.value)
  greatest : ∀ key, IsLUB (replica.effects generateKey effective key) (replica.set.standing key)

variable {generateKey effective replica} {other : Replica Value} {operation : Operation Value}

theorem effects_empty (key : String) : Replica.empty.effects generateKey effective key = ∅ := by
  ext rank
  simp [effects, Replica.empty]

theorem effects_merge (key : String) :
    (replica.merge other).effects generateKey effective key =
      replica.effects generateKey effective key ∪ other.effects generateKey effective key := by
  unfold effects
  rw [← Set.image_union]
  congr 1
  ext operation
  simp [merge, or_and_right]

theorem effects_congr (same : ∀ operation ∈ effective,
      operation ∈ replica.incorporated ↔ operation ∈ other.incorporated) (key : String) :
    replica.effects generateKey effective key = other.effects generateKey effective key := by
  unfold effects
  congr 1
  ext operation
  exact and_congr_left fun both => same operation both.1

/-- What takes effect later, and was not incorporated, is no effect. -/
theorem effects_insert (foreign : operation ∉ replica.incorporated) (key : String) :
    replica.effects generateKey (insert operation effective) key =
      replica.effects generateKey effective key := by
  unfold effects
  congr 1
  ext other
  refine and_congr_right fun member => and_congr_left fun _ => ?_
  rw [Set.mem_insert_iff]
  refine or_iff_right ?_
  rintro rfl
  exact foreign member

namespace Sound

theorem empty : (Replica.empty : Replica Value).Sound generateKey effective where
  issued := LWWElementSet.issued_empty
  reached operation member := by cases member
  greatest key := by
    rw [effects_empty]
    refine isLUB_empty_iff.mpr ?_
    show IsBot (LWWElementSet.new.standing key)
    rw [LWWElementSet.standing_empty]
    exact isBot_bot

section

variable (sound : replica.Sound generateKey effective)

include sound

theorem extend (foreign : operation ∉ replica.incorporated) :
    replica.Sound generateKey (insert operation effective) where
  issued := sound.issued
  reached := sound.reached
  greatest key := by
    rw [effects_insert foreign]
    exact sound.greatest key

theorem merge (otherSound : other.Sound generateKey effective) :
    (replica.merge other).Sound generateKey effective where
  issued := sound.issued.merge otherSound.issued
  reached operation member := by
    show _ ≤ (replica.set.merge other.set).standing _
    rw [LWWElementSet.standing_merge sound.issued otherSound.issued]
    rcases List.mem_append.mp member with here | there
    · exact le_max_of_le_left (sound.reached operation here)
    · exact le_max_of_le_right (otherSound.reached operation there)
  greatest key := by
    show IsLUB _ ((replica.set.merge other.set).standing key)
    rw [effects_merge, LWWElementSet.standing_merge sound.issued otherSound.issued]
    exact (sound.greatest key).union (otherSound.greatest key)

/-- Two replicas with the same operations have the same ranks. -/
theorem standing_eq (otherSound : other.Sound generateKey effective)
    (same : replica.SameOperations other) (key : String) :
    replica.set.standing key = other.set.standing key := by
  have greatest := sound.greatest key
  rw [effects_congr fun operation _ => same operation] at greatest
  exact greatest.unique (otherSound.greatest key)

end

end Sound

/-! ### Calls -/

section Calls

variable (generateKey replica) (operation)

/-- A replica that performs an operation. -/
def perform : Replica Value where
  set := replica.set.write generateKey operation.isAdd operation.value operation.nodeId
    (some operation.timestamp) 0
  incorporated := operation :: replica.incorporated

variable {generateKey replica} {operation}

theorem standing_perform (issued : replica.set.Issued) (key : String) :
    (replica.perform generateKey operation).set.standing key =
      if key = generateKey operation.value ∧
          replica.set.standing (generateKey operation.value) < operation.threshold then
        operation.rank
      else replica.set.standing key :=
  LWWElementSet.standing_write generateKey operation.isAdd operation.value operation.nodeId
    (some operation.timestamp) 0 issued key

/-- An operation reaches its own time, and takes nothing back. -/
theorem le_standing_perform (issued : replica.set.Issued) (key : String) :
    replica.set.standing key ≤ (replica.perform generateKey operation).set.standing key := by
  rw [standing_perform issued]
  split
  next takes =>
    rw [takes.1]
    exact takes.2.le.trans operation.threshold_le_rank
  next => exact le_rfl

section

variable (sound : replica.Sound generateKey effective)

include sound

theorem Sound.reached_perform :
    ∀ other ∈ (replica.perform generateKey operation).incorporated, other.threshold ≤
      (replica.perform generateKey operation).set.standing (generateKey other.value) := by
  intro other member
  rcases List.mem_cons.mp member with rfl | earlier
  · rw [standing_perform sound.issued]
    by_cases takes : replica.set.standing (generateKey other.value) < other.threshold
    · rw [if_pos ⟨rfl, takes⟩]
      exact other.threshold_le_rank
    · rw [if_neg fun both => takes both.2]
      exact not_lt.mp takes
  · exact (sound.reached other earlier).trans (le_standing_perform sound.issued _)

/-- An operation that is later than what stands takes effect. -/
theorem Sound.perform_effective
    (takes : replica.set.standing (generateKey operation.value) < operation.threshold) :
    (replica.perform generateKey operation).Sound generateKey (insert operation effective) where
  issued := sound.issued.write _ _ _ _ _ _
  reached := sound.reached_perform
  greatest key := by
    have foreign : operation ∉ replica.incorporated := fun member =>
      absurd (sound.reached operation member) (not_le.mpr takes)
    rw [standing_perform sound.issued]
    by_cases same : key = generateKey operation.value
    · have effects : (replica.perform generateKey operation).effects generateKey
            (insert operation effective) key =
          insert operation.rank (replica.effects generateKey effective key) := by
        rw [← effects_insert foreign]
        unfold Replica.effects
        rw [← Set.image_insert_eq]
        congr 1
        ext other
        simp only [perform, List.mem_cons, Set.mem_ofPred_eq, Set.mem_insert_iff]
        constructor
        · rintro ⟨rfl | member, rest⟩
          · exact .inl rfl
          · exact .inr ⟨member, rest⟩
        · rintro (rfl | ⟨member, rest⟩)
          · exact ⟨.inl rfl, .inl rfl, same.symm⟩
          · exact ⟨.inr member, rest⟩
      have above : replica.set.standing key ≤ operation.rank := by
        rw [same]
        exact takes.le.trans operation.threshold_le_rank
      rw [effects, if_pos ⟨same, takes⟩]
      have greatest := (sound.greatest key).insert operation.rank
      rwa [sup_eq_left.mpr above] at greatest
    · have effects : (replica.perform generateKey operation).effects generateKey
            (insert operation effective) key = replica.effects generateKey effective key := by
        rw [← effects_insert foreign]
        unfold Replica.effects
        congr 1
        ext other
        simp only [perform, List.mem_cons, Set.mem_ofPred_eq]
        refine ⟨?_, fun ⟨member, rest⟩ => ⟨.inr member, rest⟩⟩
        rintro ⟨rfl | member, rest⟩
        · exact absurd rest.2.symm same
        · exact ⟨member, rest⟩
      rw [effects, if_neg fun both => same both.1]
      exact sound.greatest key

/-- An operation that is not later than what stands is lost. -/
theorem Sound.perform_lost
    (lost : ¬replica.set.standing (generateKey operation.value) < operation.threshold)
    (settled : operation ∈ effective → operation ∈ replica.incorporated) :
    (replica.perform generateKey operation).Sound generateKey effective where
  issued := sound.issued.write _ _ _ _ _ _
  reached := sound.reached_perform
  greatest key := by
    have same (other : Operation Value) (took : other ∈ effective) :
        other ∈ (replica.perform generateKey operation).incorporated ↔
          other ∈ replica.incorporated := by
      refine ⟨fun member => ?_, List.mem_cons_of_mem _⟩
      rcases List.mem_cons.mp member with rfl | earlier
      · exact settled took
      · exact earlier
    rw [standing_perform sound.issued, if_neg fun both => lost both.2, effects_congr same]
    exact sound.greatest key

end

end Calls

end Replica

/-! ### Runs -/

/-- Every state of the network is sound for the operations that took effect, and what was
incorporated anywhere, or took effect, was performed by its origin. -/
structure Network.Coherent (generateKey : Value → String) (network : Network Value)
    (effective : Set (Operation Value)) : Prop where
  sound : ∀ replica, network.Holds replica → replica.Sound generateKey effective
  performed : ∀ replica, network.Holds replica → ∀ operation ∈ replica.incorporated,
    operation ∈ (network.replica operation.nodeId).incorporated
  took : ∀ operation ∈ effective, operation ∈ (network.replica operation.nodeId).incorporated

namespace Network

variable {generateKey : Value → String} {network : Network Value} {nodeId : String}
  {replica other : Replica Value} {effective : Set (Operation Value)}

theorem replica_update_self : (network.update nodeId replica).replica nodeId = replica :=
  if_pos rfl

variable {id : String}

theorem replica_update_of_ne (different : id ≠ nodeId) :
    (network.update nodeId replica).replica id = network.replica id :=
  if_neg different

theorem holds_update (holds : (network.update nodeId replica).Holds other) :
    other = replica ∨ network.Holds other := by
  cases holds with
  | replica id =>
    by_cases same : id = nodeId
    · rw [same, replica_update_self]
      exact .inl rfl
    · rw [replica_update_of_ne same]
      exact .inr (.replica id)
  | sent member => exact .inr (.sent member)

/-- What an origin has incorporated it keeps when a replica is replaced by one that has more. -/
theorem incorporated_update (more : (network.replica nodeId).incorporated ⊆ replica.incorporated) :
    (network.replica id).incorporated ⊆
      ((network.update nodeId replica).replica id).incorporated := by
  by_cases same : id = nodeId
  · rw [same, replica_update_self]
    exact more
  · rw [replica_update_of_ne same]
    exact List.Subset.refl _

section

variable (coherent : network.Coherent generateKey effective)

include coherent

/-- A replica is replaced by a sound one, which has only operations that their origins have
performed. -/
theorem Coherent.update {later : Set (Operation Value)}
    (more : (network.replica nodeId).incorporated ⊆ replica.incorporated)
    (stays : ∀ other, network.Holds other → other.Sound generateKey later)
    (sound : replica.Sound generateKey later)
    (performed : ∀ operation ∈ replica.incorporated, operation ∈
      ((network.update nodeId replica).replica operation.nodeId).incorporated)
    (took : ∀ operation ∈ later, operation ∈
      ((network.update nodeId replica).replica operation.nodeId).incorporated) :
    (network.update nodeId replica).Coherent generateKey later where
  sound other holds := by
    rcases holds_update holds with rfl | before
    · exact sound
    · exact stays other before
  performed other holds operation member := by
    rcases holds_update holds with rfl | before
    · exact performed operation member
    · exact incorporated_update more (coherent.performed other before operation member)
  took := took

theorem Coherent.perform (operation : Operation Value) :
    ∃ later, (network.update operation.nodeId
      ((network.replica operation.nodeId).perform generateKey operation)).Coherent generateKey
        later := by
  have origin := coherent.sound _ (.replica operation.nodeId)
  have more : (network.replica operation.nodeId).incorporated ⊆
      ((network.replica operation.nodeId).perform generateKey operation).incorporated :=
    List.subset_cons_self operation _
  have here : operation ∈ ((network.update operation.nodeId ((network.replica
      operation.nodeId).perform generateKey operation)).replica operation.nodeId).incorporated := by
    rw [replica_update_self]
    exact List.mem_cons_self
  have performed (other : Operation Value) (member : other ∈
      ((network.replica operation.nodeId).perform generateKey operation).incorporated) :
      other ∈ ((network.update operation.nodeId ((network.replica operation.nodeId).perform
        generateKey operation)).replica other.nodeId).incorporated := by
    rcases List.mem_cons.mp member with rfl | earlier
    · exact here
    · exact incorporated_update more
        (coherent.performed _ (.replica operation.nodeId) other earlier)
  by_cases takes : (network.replica operation.nodeId).set.standing (generateKey operation.value) <
      operation.threshold
  · -- nobody has incorporated an operation that its origin would still take
    have foreign (other : Replica Value) (holds : network.Holds other) :
        operation ∉ other.incorporated := fun member =>
      absurd (origin.reached operation (coherent.performed other holds operation member))
        (not_le.mpr takes)
    refine ⟨insert operation effective, coherent.update more (fun other holds =>
      (coherent.sound other holds).extend (foreign other holds)) (origin.perform_effective takes)
      performed ?_⟩
    rintro other (rfl | before)
    · exact here
    · exact incorporated_update more (coherent.took other before)
  · exact ⟨effective, coherent.update more coherent.sound
      (origin.perform_lost takes (coherent.took operation)) performed
      fun other before => incorporated_update more (coherent.took other before)⟩

theorem Coherent.merge (nodeId : String) (holds : network.Holds other) :
    (network.update nodeId ((network.replica nodeId).merge other)).Coherent generateKey
      effective := by
  have more : (network.replica nodeId).incorporated ⊆
      ((network.replica nodeId).merge other).incorporated :=
    List.subset_append_left _ _
  refine coherent.update more coherent.sound ((coherent.sound _ (.replica nodeId)).merge
    (coherent.sound other holds)) (fun operation member => incorporated_update more ?_)
    fun operation before => incorporated_update more (coherent.took operation before)
  rcases List.mem_append.mp member with here | there
  · exact coherent.performed _ (.replica nodeId) operation here
  · exact coherent.performed other holds operation there

end

theorem coherent_fresh :
    (fresh : Network Value).Coherent generateKey ∅ where
  sound replica holds := by
    cases holds with
    | replica id => exact .empty
    | sent member => cases member
  performed replica holds operation member := by
    cases holds with
    | replica id => cases member
    | sent absent => cases absent
  took operation member := absurd member (Set.notMem_empty operation)

theorem coherent_step {generateKey : Value → String} (network : Network Value)
    (action : NetworkAction Value)
    (coherent : ∃ effective, network.Coherent generateKey effective) :
    ∃ effective, (networkStep generateKey network action).Coherent generateKey effective := by
  obtain ⟨effective, coherent⟩ := coherent
  cases action with
  | add nodeId value timestamp now =>
    exact coherent.perform ⟨nodeId, true, value, timestamp.getD now⟩
  | remove nodeId value timestamp now =>
    exact coherent.perform ⟨nodeId, false, value, timestamp.getD now⟩
  | send nodeId =>
    have before (replica : Replica Value)
        (holds : (networkStep generateKey network (.send nodeId)).Holds replica) :
        network.Holds replica := by
      cases holds with
      | replica id => exact .replica id
      | sent member =>
        rcases List.mem_append.mp member with earlier | now
        · exact .sent earlier
        · rw [List.mem_singleton.mp now]
          exact .replica nodeId
    exact ⟨effective, fun replica holds => coherent.sound replica (before replica holds),
      fun replica holds => coherent.performed replica (before replica holds), coherent.took⟩
  | merge nodeId index =>
    rw [networkStep]
    cases found : network.sent[index]? with
    | none => exact ⟨effective, coherent⟩
    | some other => exact ⟨effective, coherent.merge nodeId (.sent (List.mem_of_getElem? found))⟩

end Network

/-- Replicas converge: in every run a merge is commutative, associative and idempotent in what it
makes members, and two states that incorporated the same operations have the same members. -/
theorem lww_replicas_converge (generateKey : Value → String)
    (actions : List (NetworkAction Value)) (first second third : Replica Value)
    (firstHeld : (runActions (networkStep generateKey) .fresh actions).Holds first)
    (secondHeld : (runActions (networkStep generateKey) .fresh actions).Holds second)
    (thirdHeld : (runActions (networkStep generateKey) .fresh actions).Holds third)
    (value : Value) :
    (first.set.merge second.set).has generateKey value =
        (second.set.merge first.set).has generateKey value ∧
      ((first.set.merge second.set).merge third.set).has generateKey value =
        (first.set.merge (second.set.merge third.set)).has generateKey value ∧
      (first.set.merge first.set).has generateKey value = first.set.has generateKey value ∧
      (first.SameOperations second →
        first.set.has generateKey value = second.set.has generateKey value) := by
  obtain ⟨effective, coherent⟩ := run_invariant
    (fun network : Network Value => ∃ effective, network.Coherent generateKey effective)
    Network.coherent_step Network.fresh actions ⟨∅, Network.coherent_fresh⟩
  have firstSound := coherent.sound first firstHeld
  have secondSound := coherent.sound second secondHeld
  have thirdSound := coherent.sound third thirdHeld
  refine ⟨LWWElementSet.has_congr ?_, LWWElementSet.has_congr ?_, LWWElementSet.has_congr ?_,
    fun same => LWWElementSet.has_congr (firstSound.standing_eq secondSound same _)⟩
  · rw [LWWElementSet.standing_merge firstSound.issued secondSound.issued,
      LWWElementSet.standing_merge secondSound.issued firstSound.issued, max_comm]
  · rw [LWWElementSet.standing_merge (firstSound.issued.merge secondSound.issued)
        thirdSound.issued,
      LWWElementSet.standing_merge firstSound.issued secondSound.issued,
      LWWElementSet.standing_merge firstSound.issued (secondSound.issued.merge thirdSound.issued),
      LWWElementSet.standing_merge secondSound.issued thirdSound.issued, max_assoc]
  · rw [LWWElementSet.standing_merge firstSound.issued firstSound.issued, max_self]

/-- One replica adds what another one removes at the same time, and they exchange their states. -/
def addAgainstRemove : List (NetworkAction String) :=
  [.add "a" "x" (some 1) 0, .remove "b" "x" (some 1) 0, .send "a", .send "b", .merge "a" 1,
    .merge "b" 0]

theorem converged_addAgainstRemove :
    ((runActions (networkStep id) .fresh addAgainstRemove).replica "a").set.has id "x" =
      ((runActions (networkStep id) .fresh addAgainstRemove).replica "b").set.has id "x" := by
  refine (lww_replicas_converge id addAgainstRemove _ _ _ (.replica "a") (.replica "b")
    (.replica "a") "x").2.2.2 fun operation => ?_
  show operation ∈ [Operation.mk "a" true "x" 1, ⟨"b", false, "x", 1⟩] ↔
    operation ∈ [Operation.mk "b" false "x" 1, ⟨"a", true, "x", 1⟩]
  simp only [List.mem_cons, List.not_mem_nil, or_false]
  exact or_comm

end Agora.Crdt
