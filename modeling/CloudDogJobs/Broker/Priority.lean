import Mathlib.Algebra.Order.Field.Rat
import CloudDogJobs.Foundation.Heap
import CloudDogJobs.Foundation.Sequence

/-!
# Priority queue

`broker/priority.py`: a heap of entries compared by priority, time of insertion
and sequence number. `heapq` is a `HeapLibrary`; every method holds the queue's
lock for its whole body.

`StableList` is what the queue is for: the items in the order they were put,
each with its current level. `responses_agree` relates the two over every
sequence of calls.
-/

namespace CloudDogJobs

open Foundation

/-- The priority levels; a lower value goes first. -/
inductive Priority
  | critical
  | high
  | normal
  | bulk
  deriving DecidableEq, Repr

namespace Priority

def value : Priority → Nat
  | .critical => 0
  | .high => 1
  | .normal => 2
  | .bulk => 3

end Priority

/-- An entry of the heap. The source keeps the value of the priority and turns it
back into a level when it is read. -/
structure PriorityItem (α : Type) where
  priority : Priority
  timestamp : Rat
  sequence : Nat
  item : α

namespace PriorityItem

variable {α : Type}

/-- The order of the dataclass: priority, then timestamp, then sequence number;
the item takes no part. -/
def Less (first second : PriorityItem α) : Prop :=
  first.priority.value < second.priority.value ∨
    first.priority.value = second.priority.value ∧
      (first.timestamp < second.timestamp ∨
        first.timestamp = second.timestamp ∧ first.sequence < second.sequence)

instance : DecidableRel (Less : PriorityItem α → PriorityItem α → Prop) := fun _ _ =>
  inferInstanceAs (Decidable (_ ∨ _))

theorem not_less_iff (first second : PriorityItem α) :
    ¬ Less first second ↔
      second.priority.value < first.priority.value ∨
        second.priority.value = first.priority.value ∧
          (second.timestamp < first.timestamp ∨
            second.timestamp = first.timestamp ∧ second.sequence ≤ first.sequence) := by
  unfold Less
  rcases lt_trichotomy first.timestamp second.timestamp with earlier | same | later
  · simp only [earlier, earlier.ne', earlier.not_gt, true_or, and_true, false_and, or_false,
      and_false]
    omega
  · simp only [same, lt_irrefl, true_and, false_or]
    omega
  · simp only [later, later.ne', later.not_gt, true_or, and_true, false_and, or_false,
      and_false]
    omega

theorem less_irrefl (entry : PriorityItem α) : ¬ Less entry entry := by
  rw [not_less_iff]
  exact .inr ⟨rfl, .inr ⟨rfl, le_refl _⟩⟩

theorem not_less_trans (first second third : PriorityItem α) (before : ¬ Less second first)
    (after : ¬ Less third second) : ¬ Less third first := by
  rw [not_less_iff] at *
  rcases before with below | ⟨level, older⟩
  · rcases after with below' | ⟨level', _⟩ <;> exact .inl (by omega)
  · rcases after with below' | ⟨level', older'⟩
    · exact .inl (by omega)
    · refine .inr ⟨by omega, ?_⟩
      rcases older with older | ⟨same, ranked⟩
      · rcases older' with older' | ⟨same', _⟩
        · exact .inl (older.trans older')
        · exact .inl (same' ▸ older)
      · rcases older' with older' | ⟨same', ranked'⟩
        · exact .inl (same ▸ older')
        · exact .inr ⟨same.trans same', ranked.trans ranked'⟩

/-- What the stable list keeps of an entry. -/
def level (entry : PriorityItem α) : Priority × α := (entry.priority, entry.item)

instance : Std.Total (NotAfter (Less : PriorityItem α → PriorityItem α → Prop)) := ⟨by
  intro first second
  unfold NotAfter
  rw [not_less_iff, not_less_iff]
  rcases lt_trichotomy first.timestamp second.timestamp with earlier | same | later
  · simp only [earlier, true_or, and_true]
    omega
  · simp only [same, lt_irrefl, true_and, false_or]
    omega
  · simp only [later, true_or, and_true]
    omega⟩

instance : IsTrans (PriorityItem α) (NotAfter Less) :=
  ⟨fun first second third before after => not_less_trans first second third before after⟩

end PriorityItem

/-- The heap and the sequence number given last. -/
structure PriorityQueue (α : Type) where
  heap : List (PriorityItem α)
  seq : Nat

namespace PriorityQueue

variable {α ε : Type}

/-- A new queue. -/
def empty : PriorityQueue α := ⟨[], 0⟩

section Operations

variable (heapq : HeapLibrary (PriorityItem α) PriorityItem.Less)

/-- Enqueue an item at a level, at a reading of the clock. -/
def put (queue : PriorityQueue α) (item : α) (priority : Priority) (now : Rat) :
    PriorityQueue α :=
  let entry : PriorityItem α :=
    { priority := priority, timestamp := now, sequence := queue.seq + 1, item := item }
  { heap := heapq.heappush queue.heap entry, seq := queue.seq + 1 }

/-- Dequeue the item of the least entry. -/
def get (queue : PriorityQueue α) : Option α × PriorityQueue α :=
  match queue.heap with
  | [] => (none, queue)
  | root :: rest =>
      let (entry, heap) := heapq.heappop root rest
      (some entry.item, { queue with heap := heap })

/-- The item of the least entry and its level. -/
def peek (queue : PriorityQueue α) : Option (α × Priority) :=
  match queue.heap with
  | [] => none
  | entry :: _ => some (entry.item, entry.priority)

/-- The loop of `adjust_priority`: the new heap and the number of entries moved
to the new level, unless the predicate raises. -/
def relevel (predicate : α → Except ε Bool) (level : Priority) :
    List (PriorityItem α) → Except ε (List (PriorityItem α) × Nat)
  | [] => .ok ([], 0)
  | entry :: rest => do
      let matched ← predicate entry.item
      let (entries, adjusted) ← relevel predicate level rest
      if matched then .ok ({ entry with priority := level } :: entries, adjusted + 1)
      else .ok (entry :: entries, adjusted)

/-- Move all items that match the predicate to a level. -/
def adjustPriority (queue : PriorityQueue α) (predicate : α → Except ε Bool)
    (level : Priority) : Except ε Nat × PriorityQueue α :=
  match relevel predicate level queue.heap with
  | .error error => (.error error, queue)
  | .ok (entries, adjusted) => (.ok adjusted, { queue with heap := heapq.heapify entries })

/-- The number of queued items. -/
def len (queue : PriorityQueue α) : Nat := queue.heap.length

/-- The number of items at each level. -/
def countByPriority (queue : PriorityQueue α) (level : Priority) : Nat :=
  queue.heap.countP fun entry => entry.priority = level

end Operations

/-! ## Calls -/

/-- A call on the queue. -/
inductive Call (α ε : Type)
  | put (item : α) (priority : Priority) (now : Rat)
  | get
  | peek
  | adjustPriority (predicate : α → Except ε Bool) (level : Priority)
  | len
  | countByPriority (level : Priority)

/-- What a call returns. Which exception a predicate raised is left out: it
depends on the order of the heap. -/
inductive Response (α : Type)
  | done
  | got (item : Option α)
  | peeked (front : Option (α × Priority))
  | adjusted (count : Option Nat)
  | count (items : Nat)
  deriving DecidableEq

/-- The items a call adds. -/
def Call.added : Call α ε → List α
  | .put item _ _ => [item]
  | _ => []

/-- The items a response hands out. -/
def Response.removed : Response α → List α
  | .got (some item) => [item]
  | _ => []

/-- The effect of a call on the queue. -/
def perform (heapq : HeapLibrary (PriorityItem α) PriorityItem.Less) (queue : PriorityQueue α) :
    Call α ε → Response α × PriorityQueue α
  | .put item priority now => (.done, queue.put heapq item priority now)
  | .get => (.got (queue.get heapq).1, (queue.get heapq).2)
  | .peek => (.peeked queue.peek, queue)
  | .adjustPriority predicate level =>
      let (result, next) := queue.adjustPriority heapq predicate level
      (.adjusted result.toOption, next)
  | .len => (.count queue.len, queue)
  | .countByPriority level => (.count (queue.countByPriority level), queue)

end PriorityQueue

/-! ## Stable priority lists -/

/-- The items in the order they were put, with their current levels. -/
abbrev StableList (α : Type) := List (Priority × α)

namespace StableList

variable {α ε : Type}

/-- The first item of the least level, and the others in their order. -/
def takeFront : StableList α → Option ((Priority × α) × StableList α)
  | [] => none
  | first :: rest =>
      match takeFront rest with
      | none => some (first, [])
      | some (front, others) =>
          if front.1.value < first.1.value then some (front, first :: others)
          else some (first, rest)

/-- Whether the predicate answers on every item. -/
def answers (predicate : α → Except ε Bool) (items : StableList α) : Bool :=
  items.all fun entry => (predicate entry.2).isOk

/-- Whether the predicate matches an item. -/
def matched (predicate : α → Except ε Bool) (item : α) : Bool :=
  (predicate item).toOption.getD false

/-- What a call means for the list. -/
def perform (items : StableList α) : PriorityQueue.Call α ε →
    PriorityQueue.Response α × StableList α
  | .put item priority _ => (.done, items ++ [(priority, item)])
  | .get =>
      match items.takeFront with
      | none => (.got none, items)
      | some (front, others) => (.got (some front.2), others)
  | .peek => (.peeked (items.takeFront.map fun (front, _) => (front.2, front.1)), items)
  | .adjustPriority predicate level =>
      if items.answers predicate then
        (.adjusted (some (items.countP fun entry => matched predicate entry.2)),
          items.map fun entry => if matched predicate entry.2 then (level, entry.2) else entry)
      else (.adjusted none, items)
  | .len => (.count items.length, items)
  | .countByPriority level => (.count (items.countP fun entry => entry.1 = level), items)

theorem takeFront_eq_none (items : StableList α) : takeFront items = none ↔ items = [] := by
  cases items with
  | nil => exact iff_of_true rfl rfl
  | cons first rest =>
      refine iff_of_false ?_ (List.cons_ne_nil first rest)
      unfold takeFront
      split
      · exact nofun
      · split <;> exact nofun

/-- The front goes before all later entries and strictly before all earlier
ones, and taking it leaves the others in their order. -/
theorem takeFront_split {items others : StableList α} {front : Priority × α}
    (taken : takeFront items = some (front, others)) :
    ∃ earlier later, items = earlier ++ front :: later ∧ others = earlier ++ later ∧
      (∀ entry ∈ earlier, front.1.value < entry.1.value) ∧
      ∀ entry ∈ later, front.1.value ≤ entry.1.value := by
  induction items generalizing front others with
  | nil => cases taken
  | cons first rest ih =>
      unfold takeFront at taken
      split at taken
      · next alone =>
          cases taken
          rw [(takeFront_eq_none rest).mp alone]
          exact ⟨[], [], rfl, rfl, nofun, nofun⟩
      · next second remaining found =>
          obtain ⟨earlier, later, shape, left, strict, weak⟩ := ih found
          split at taken
          · next below =>
              cases taken
              refine ⟨first :: earlier, later, by rw [shape]; rfl, by rw [left]; rfl, ?_, weak⟩
              exact List.forall_mem_cons.mpr ⟨below, strict⟩
          · next above =>
              cases taken
              refine ⟨[], rest, rfl, rfl, nofun, ?_⟩
              intro entry member
              rw [shape, List.mem_append, List.mem_cons] at member
              rcases member with inside | same | inside
              · have := strict entry inside
                omega
              · subst same
                omega
              · have := weak entry inside
                omega

/-- The split determines the front. -/
theorem takeFront_of_split (earlier later : StableList α) (front : Priority × α)
    (strict : ∀ entry ∈ earlier, front.1.value < entry.1.value)
    (weak : ∀ entry ∈ later, front.1.value ≤ entry.1.value) :
    takeFront (earlier ++ front :: later) = some (front, earlier ++ later) := by
  induction earlier with
  | nil =>
      simp only [List.nil_append, takeFront]
      split
      · next alone => rw [(takeFront_eq_none later).mp alone]
      · next second others found =>
          obtain ⟨before, after, shape, _⟩ := takeFront_split found
          have member : second ∈ later := by
            rw [shape]
            exact List.mem_append_right before List.mem_cons_self
          rw [if_neg (Nat.not_lt.mpr (weak second member))]
  | cons first rest ih =>
      have below := strict first List.mem_cons_self
      rw [List.cons_append, takeFront, ih fun entry member =>
        strict entry (List.mem_cons_of_mem _ member)]
      simp only [below, ↓reduceIte, List.cons_append]

/-- A call neither loses nor duplicates an item. -/
theorem perform_conserves (items : StableList α) (call : PriorityQueue.Call α ε) :
    ((items.perform call).1.removed ++ (items.perform call).2.map Prod.snd).Perm
      (items.map Prod.snd ++ call.added) := by
  cases call with
  | put item priority now =>
      simp [perform, PriorityQueue.Response.removed, PriorityQueue.Call.added]
  | get =>
      cases taken : items.takeFront with
      | none =>
          simp [perform, taken, PriorityQueue.Response.removed, PriorityQueue.Call.added]
      | some result =>
          obtain ⟨front, others⟩ := result
          obtain ⟨earlier, later, rfl, rfl, _⟩ := takeFront_split taken
          simpa [perform, taken, PriorityQueue.Response.removed, PriorityQueue.Call.added] using
            List.perm_middle.symm
  | adjustPriority predicate level =>
      have kept : (items.map fun entry =>
          if matched predicate entry.2 then (level, entry.2) else entry).map Prod.snd =
            items.map Prod.snd := by
        rw [List.map_map]
        apply List.map_congr_left
        intro entry _
        simp only [Function.comp_apply]
        split <;> rfl
      simp only [perform]
      split <;> simp [kept, PriorityQueue.Response.removed, PriorityQueue.Call.added]
  | peek => simp [perform, PriorityQueue.Response.removed, PriorityQueue.Call.added]
  | len => simp [perform, PriorityQueue.Response.removed, PriorityQueue.Call.added]
  | countByPriority level =>
      simp [perform, PriorityQueue.Response.removed, PriorityQueue.Call.added]

theorem transcript_conserves (calls : List (PriorityQueue.Call α ε)) (items : StableList α) :
    ((transcript perform items calls).1.flatMap PriorityQueue.Response.removed ++
        (transcript perform items calls).2.map Prod.snd).Perm
      (items.map Prod.snd ++ calls.flatMap PriorityQueue.Call.added) := by
  induction calls generalizing items with
  | nil => simp [transcript]
  | cons call rest ih =>
      rw [transcript, List.flatMap_cons, List.flatMap_cons, List.append_assoc]
      refine ((ih _).append_left _).trans ?_
      rw [← List.append_assoc, ← List.append_assoc]
      exact (items.perform_conserves call).append_right _

end StableList

/-! ## The queue refines the list -/

namespace PriorityQueue

variable {α ε : Type}

/-- The queue represents the list: its entries, put back in the order of their
sequence numbers, are the list's, and their timestamps follow that order. -/
structure Represents (queue : PriorityQueue α) (clock : Rat) (items : StableList α)
    (entries : List (PriorityItem α)) : Prop where
  heap : IsHeap PriorityItem.Less queue.heap
  perm : entries.Perm queue.heap
  items : entries.map PriorityItem.level = items
  ordered : entries.Pairwise fun first second =>
    first.sequence < second.sequence ∧ first.timestamp ≤ second.timestamp
  bounded : ∀ entry ∈ entries, entry.sequence ≤ queue.seq ∧ entry.timestamp ≤ clock

/-- The entry a heap hands out splits the entries in the order of their putting
as the front splits the stable list. -/
theorem Represents.front_split {queue : PriorityQueue α} {clock : Rat} {items : StableList α}
    {entries : List (PriorityItem α)} (represents : Represents queue clock items entries)
    {root : PriorityItem α} {rest : List (PriorityItem α)} (filled : queue.heap = root :: rest) :
    ∃ earlier later, entries = earlier ++ root :: later ∧
      (earlier ++ later).Perm rest ∧
      items.takeFront = some (root.level, (earlier ++ later).map PriorityItem.level) := by
  have ordered := represents.heap
  have perm := represents.perm
  rw [filled] at ordered perm
  have least : ∀ entry ∈ entries, ¬ PriorityItem.Less entry root := by
    intro entry member
    exact ordered.root_least PriorityItem.less_irrefl PriorityItem.not_less_trans entry
      (perm.mem_iff.mp member)
  obtain ⟨earlier, later, shape⟩ :=
    List.append_of_mem (perm.mem_iff.mpr (List.mem_cons_self : root ∈ root :: rest))
  refine ⟨earlier, later, shape, ?_, ?_⟩
  · rw [shape] at perm
    exact (List.perm_middle.symm.trans perm).cons_inv
  · have sequenced := represents.ordered
    rw [shape, List.pairwise_append] at sequenced
    rw [← represents.items, shape, List.map_append, List.map_append, List.map_cons]
    apply StableList.takeFront_of_split
    · intro entry member
      obtain ⟨source, inside, rfl⟩ := List.mem_map.mp member
      have before := sequenced.2.2 source inside root List.mem_cons_self
      have after := least source (shape ▸ List.mem_append_left _ inside)
      rw [PriorityItem.not_less_iff] at after
      rcases after with below | ⟨_, later | ⟨_, later⟩⟩
      · exact below
      · exact absurd later (not_lt.mpr before.2)
      · exact absurd before.1 (Nat.not_lt.mpr later)
    · intro entry member
      obtain ⟨source, inside, rfl⟩ := List.mem_map.mp member
      have after := least source
        (shape ▸ List.mem_append_right _ (List.mem_cons_of_mem _ inside))
      rw [PriorityItem.not_less_iff] at after
      rcases after with below | ⟨same, _⟩
      · exact below.le
      · exact same.le

variable {heapq : HeapLibrary (PriorityItem α) PriorityItem.Less} {queue : PriorityQueue α}
  {clock : Rat} {items : StableList α} {entries : List (PriorityItem α)}

theorem Represents.empty_iff (represents : Represents queue clock items entries) :
    queue.heap = [] ↔ items = [] := by
  rw [← represents.items, List.map_eq_nil_iff]
  constructor
  · intro none
    exact List.perm_nil.mp (none ▸ represents.perm)
  · intro none
    exact List.nil_perm.mp (none ▸ represents.perm)

theorem Represents.put (represents : Represents queue clock items entries) (item : α)
    (priority : Priority) {now : Rat} (later : clock ≤ now) :
    ∃ entries, Represents (queue.put heapq item priority now) now
      (items ++ [(priority, item)]) entries := by
  refine ⟨entries ++ [⟨priority, now, queue.seq + 1, item⟩], ?_⟩
  refine ⟨heapq.heappush_heap _ _ represents.heap, ?_, ?_, ?_, ?_⟩
  · apply List.perm_append_comm.trans
    exact (represents.perm.cons _).trans (heapq.heappush_perm _ _).symm
  · rw [List.map_append, represents.items]
    rfl
  · refine List.pairwise_append.mpr ⟨represents.ordered, List.pairwise_singleton _ _, ?_⟩
    intro entry member last inside
    obtain ⟨numbered, stamped⟩ := represents.bounded entry member
    rw [List.mem_singleton.mp inside]
    exact ⟨Nat.lt_succ_of_le numbered, stamped.trans later⟩
  · intro entry member
    rcases List.mem_append.mp member with old | fresh
    · obtain ⟨numbered, stamped⟩ := represents.bounded entry old
      exact ⟨Nat.le_succ_of_le numbered, stamped.trans later⟩
    · rw [List.mem_singleton.mp fresh]
      exact ⟨le_refl _, le_refl _⟩

/-- Removing an entry keeps the others as they are. -/
theorem Represents.take (represents : Represents queue clock items entries)
    {heap remaining : List (PriorityItem α)} (ordered : IsHeap PriorityItem.Less heap)
    (perm : remaining.Perm heap) (fewer : remaining.Sublist entries) :
    Represents { queue with heap := heap } clock (remaining.map PriorityItem.level) remaining where
  heap := ordered
  perm := perm
  items := rfl
  ordered := represents.ordered.sublist fewer
  bounded := fun entry member => represents.bounded entry (fewer.subset member)

/-- What `adjust_priority` makes of an entry. -/
def moved (predicate : α → Except ε Bool) (level : Priority) (entry : PriorityItem α) :
    PriorityItem α :=
  if StableList.matched predicate entry.item then { entry with priority := level } else entry

theorem relevel_ok {predicate : α → Except ε Bool} {level : Priority}
    {heap : List (PriorityItem α)} (answers : ∀ entry ∈ heap, (predicate entry.item).isOk = true) :
    relevel predicate level heap = .ok (heap.map (moved predicate level),
      heap.countP fun entry => StableList.matched predicate entry.item) := by
  induction heap with
  | nil => rfl
  | cons entry rest ih =>
      have first := answers entry List.mem_cons_self
      rw [relevel, ih fun other member => answers other (List.mem_cons_of_mem _ member)]
      cases answer : predicate entry.item with
      | error error =>
          rw [answer] at first
          cases first
      | ok matching =>
          cases matching <;>
            simp [moved, StableList.matched, answer, bind, Except.bind, Except.toOption]

theorem relevel_error {predicate : α → Except ε Bool} (level : Priority)
    {heap : List (PriorityItem α)}
    (raises : ¬ ∀ entry ∈ heap, (predicate entry.item).isOk = true) :
    ∃ error, relevel predicate level heap = .error error := by
  induction heap with
  | nil => exact absurd nofun raises
  | cons entry rest ih =>
      rw [relevel]
      cases answer : predicate entry.item with
      | error error => exact ⟨error, rfl⟩
      | ok matching =>
          have later : ¬ ∀ entry ∈ rest, (predicate entry.item).isOk = true := by
            intro answers
            apply raises
            refine List.forall_mem_cons.mpr ⟨?_, answers⟩
            rw [answer]
            rfl
          obtain ⟨error, raised⟩ := ih later
          exact ⟨error, by rw [raised]; rfl⟩

theorem level_moved (predicate : α → Except ε Bool) (level : Priority)
    (entry : PriorityItem α) :
    (moved predicate level entry).level =
      if StableList.matched predicate entry.level.2 then (level, entry.level.2)
      else entry.level := by
  unfold moved
  split
  · next hit => exact (if_pos hit).symm
  · next miss => exact (if_neg miss).symm

theorem moved_keeps (predicate : α → Except ε Bool) (level : Priority) (entry : PriorityItem α) :
    (moved predicate level entry).sequence = entry.sequence ∧
      (moved predicate level entry).timestamp = entry.timestamp := by
  unfold moved
  split <;> exact ⟨rfl, rfl⟩

/-- Moving entries to a level keeps the order of their putting. -/
theorem Represents.adjust (represents : Represents queue clock items entries)
    (predicate : α → Except ε Bool) (level : Priority) :
    Represents { queue with heap := heapq.heapify (queue.heap.map (moved predicate level)) } clock
      (items.map fun entry =>
        if StableList.matched predicate entry.2 then (level, entry.2) else entry)
      (entries.map (moved predicate level)) where
  heap := heapq.heapify_heap _
  perm := (represents.perm.map _).trans (heapq.heapify_perm _).symm
  items := by
    rw [← represents.items, List.map_map, List.map_map]
    apply List.map_congr_left
    intro entry _
    exact level_moved predicate level entry
  ordered := by
    refine List.pairwise_map.mpr (represents.ordered.imp ?_)
    intro first second before
    rw [(moved_keeps predicate level first).1, (moved_keeps predicate level first).2,
      (moved_keeps predicate level second).1, (moved_keeps predicate level second).2]
    exact before
  bounded := by
    intro entry member
    obtain ⟨source, inside, rfl⟩ := List.mem_map.mp member
    rw [(moved_keeps predicate level source).1, (moved_keeps predicate level source).2]
    exact represents.bounded source inside

theorem Represents.countP (represents : Represents queue clock items entries)
    (wanted : Priority × α → Bool) :
    queue.heap.countP (fun entry => wanted entry.level) = items.countP wanted := by
  rw [← represents.items, List.countP_map, ← represents.perm.countP_eq]
  rfl

theorem Represents.answers_iff (represents : Represents queue clock items entries)
    (predicate : α → Except ε Bool) :
    (∀ entry ∈ queue.heap, (predicate entry.item).isOk = true) ↔
      items.answers predicate = true := by
  rw [StableList.answers, ← represents.items, List.all_map, List.all_eq_true]
  constructor
  · intro answers entry member
    exact answers entry (represents.perm.mem_iff.mp member)
  · intro answers entry member
    exact answers entry (represents.perm.mem_iff.mpr member)

/-- The clock after a call, by the reading the call takes. -/
def tick (clock : Rat) : Call α ε → Rat
  | .put _ _ now => now
  | _ => clock

/-- The clock does not go back. -/
def Advances (clock : Rat) (call : Call α ε) : Prop := clock ≤ tick clock call

/-- The queue stands for the list. -/
def StandsFor (clock : Rat) (queue : PriorityQueue α) (items : StableList α) : Prop :=
  ∃ entries, Represents queue clock items entries

theorem get_simulates (stands : StandsFor clock queue items) :
    Response.got (queue.get heapq).1 = (items.perform (.get : Call α ε)).1 ∧
      StandsFor clock (queue.get heapq).2 (items.perform (.get : Call α ε)).2 := by
  obtain ⟨entries, represents⟩ := stands
  simp only [PriorityQueue.get, StableList.perform]
  cases filled : queue.heap with
  | nil =>
      have none := represents.empty_iff.mp filled
      subst none
      exact ⟨rfl, entries, represents⟩
  | cons root rest =>
      obtain ⟨earlier, later, shape, perm, front⟩ := represents.front_split filled
      rw [front]
      have popped := heapq.heappop_root root rest
      refine ⟨by simp only [popped, PriorityItem.level], earlier ++ later, ?_⟩
      refine represents.take (heapq.heappop_heap root rest (filled ▸ represents.heap))
        (perm.trans (heapq.heappop_perm root rest).symm) ?_
      rw [shape]
      exact (List.sublist_cons_self root later).append_left earlier

theorem peek_simulates (stands : StandsFor clock queue items) :
    queue.peek = items.takeFront.map fun (front, _) => (front.2, front.1) := by
  obtain ⟨entries, represents⟩ := stands
  unfold PriorityQueue.peek
  cases filled : queue.heap with
  | nil =>
      rw [represents.empty_iff.mp filled]
      rfl
  | cons root rest =>
      obtain ⟨_, _, _, _, front⟩ := represents.front_split filled
      rw [front]
      rfl

theorem adjustPriority_simulates (stands : StandsFor clock queue items)
    (predicate : α → Except ε Bool) (level : Priority) :
    Response.adjusted (queue.adjustPriority heapq predicate level).1.toOption =
        (items.perform (.adjustPriority predicate level)).1 ∧
      StandsFor clock (queue.adjustPriority heapq predicate level).2
        (items.perform (.adjustPriority predicate level)).2 := by
  obtain ⟨entries, represents⟩ := stands
  simp only [adjustPriority, StableList.perform]
  by_cases answers : items.answers predicate = true
  · rw [relevel_ok ((represents.answers_iff predicate).mpr answers), if_pos answers]
    refine ⟨?_, entries.map (moved predicate level), represents.adjust predicate level⟩
    have counted := represents.countP fun entry => StableList.matched predicate entry.2
    exact congrArg (fun count => Response.adjusted (some count)) counted
  · obtain ⟨error, raised⟩ := relevel_error level
      (mt (represents.answers_iff predicate).mp answers)
    rw [raised, if_neg answers]
    exact ⟨rfl, entries, represents⟩

variable (heapq) in
/-- The step lemma: every call answers as the list does and leaves a queue that
stands for what the call leaves of the list. -/
theorem perform_simulates (clock : Rat) (queue : PriorityQueue α) (items : StableList α)
    (call : Call α ε) (stands : StandsFor clock queue items) (advances : Advances clock call) :
    (queue.perform heapq call).1 = (items.perform call).1 ∧
      StandsFor (tick clock call) (queue.perform heapq call).2 (items.perform call).2 := by
  cases call with
  | put item priority now =>
      obtain ⟨entries, represents⟩ := stands
      exact ⟨rfl, represents.put item priority advances⟩
  | get => exact get_simulates stands
  | peek => exact ⟨congrArg Response.peeked (peek_simulates stands), stands⟩
  | adjustPriority predicate level => exact adjustPriority_simulates stands predicate level
  | len =>
      obtain ⟨entries, represents⟩ := stands
      refine ⟨congrArg Response.count ?_, entries, represents⟩
      rw [← represents.items, List.length_map, represents.perm.length_eq]
      rfl
  | countByPriority level =>
      obtain ⟨entries, represents⟩ := stands
      exact ⟨congrArg Response.count (represents.countP fun entry => entry.1 = level),
        entries, represents⟩

theorem standsFor_empty (clock : Rat) : StandsFor clock (empty : PriorityQueue α) [] :=
  ⟨[], nofun, .refl _, rfl, .nil, nofun⟩

theorem adjustPriority_error (queue : PriorityQueue α) (predicate : α → Except ε Bool)
    (level : Priority) {error : ε}
    (raises : (queue.adjustPriority heapq predicate level).1 = .error error) :
    (queue.adjustPriority heapq predicate level).2 = queue := by
  unfold adjustPriority at *
  split at raises
  · rfl
  · cases raises

/-- **The queue refines a stable priority list.** With a clock that does not go
back, every sequence of calls on a new queue gets the answers it gets from the
list of the items in the order of their putting: the front is the first item of
the least level, and a new level moves no item. The queue holds the list's items
at the list's levels, the items put are those handed out and those still held,
and an adjustment whose predicate raises leaves the queue as it was. -/
theorem responses_agree (heapq : HeapLibrary (PriorityItem α) PriorityItem.Less)
    (calls : List (Call α ε)) (start : Rat) (monotonic : Guarded tick Advances start calls) :
    (transcript (perform heapq) empty calls).1 = (transcript StableList.perform [] calls).1 ∧
      ((transcript (perform heapq) empty calls).2.heap.map PriorityItem.level).Perm
        (transcript StableList.perform [] calls).2 ∧
      ((transcript (perform heapq) empty calls).1.flatMap Response.removed ++
          (transcript (perform heapq) empty calls).2.heap.map PriorityItem.item).Perm
        (calls.flatMap Call.added) ∧
      ∀ (predicate : α → Except ε Bool) (level : Priority) (error : ε),
        ((transcript (perform heapq) empty calls).2.adjustPriority heapq predicate level).1 =
            .error error →
          ((transcript (perform heapq) empty calls).2.adjustPriority heapq predicate level).2 =
            (transcript (perform heapq) empty calls).2 := by
  obtain ⟨same, entries, represents⟩ :=
    transcript_of_simulation (perform_simulates heapq) (standsFor_empty start) monotonic
  have held : ((transcript (perform heapq) empty calls).2.heap.map PriorityItem.level).Perm
      (transcript StableList.perform [] calls).2 := by
    rw [← represents.items]
    exact represents.perm.symm.map _
  refine ⟨same, held, ?_, fun predicate level error => adjustPriority_error _ predicate level⟩
  have conserved := StableList.transcript_conserves calls ([] : StableList α)
  rw [← same] at conserved
  refine List.Perm.trans (List.Perm.append_left _ ?_) conserved
  have dropped := held.map Prod.snd
  rwa [List.map_map] at dropped

/-- Two items put at once, then the later one made critical. -/
def sampleCalls : List (Call String Unit) :=
  [.put "report" .normal 1, .put "backup" .bulk 1, .peek,
    .adjustPriority (fun item => .ok (item == "backup")) .critical, .get, .len]

/-- The later item goes first after the adjustment, and one item is left. -/
theorem sample_calls_agree :
    (transcript (perform (HeapLibrary.sorting PriorityItem.Less)) empty sampleCalls).1 =
        [.done, .done, .peeked (some ("report", .normal)), .adjusted (some 1),
          .got (some "backup"), .count 1] ∧
      (transcript (perform (HeapLibrary.sorting PriorityItem.Less)) empty sampleCalls).1 =
        (transcript StableList.perform [] sampleCalls).1 := by
  have monotonic : Guarded tick Advances 0 sampleCalls := by
    simp only [sampleCalls, Guarded, Advances, tick]
    decide
  exact ⟨by decide +kernel, (responses_agree _ sampleCalls 0 monotonic).1⟩

end PriorityQueue

end CloudDogJobs
