import FrameGraph.Proofs.Edges
import FrameGraph.Table

/-!
# Exactly These Edges

Which edges the dependency graph of some passes has can be said of the
declarations alone. A resource puts one pass before another if both write it
and no pass between them does, or if the one writes what the other uses
without writing it. Nothing else makes an edge, and two passes are joined by
one edge however many resources and uses give a reason for it.

Uses do not come sorted. A pass may name a resource several times, read it in
one use and write it in the next, and in between name others; and which
passes write is only known when all have been looked at. The usual way is a
walk over the passes that files every use under the name of its resource: a
pass enters a file with its first use of the resource and becomes a writer
with the first use that writes. `fileUses` is that walk, and
`filedDependencies` reads the edges off the files.

What carries the walk is that a use makes the last pass longer and touches
nothing else. So the files are at every point those of the passes as far as
they have been read (`fileUse_filesOf`): the names in use, in order of first
use, each with the passes that use it (`usersAmong`). A pass that is read
again stands last in the file, since everyone else there was declared before
it.

## Main definitions

* `DependencyEdge.ends`: The two nodes an edge joins.
* `DependencyGraph.Condensed`: One edge for a pair, and no reason twice.
* `ResourceUser`: A pass that uses a resource, and whether it writes it.
* `fileUses`, `filedDependencies`: The walk over all uses, and its graph.
* `usersAmong`, `filesOf`: The users of a resource, and of all resources.
* `DeclaresUse`, `DeclaresWrite`: What the uses at a position declare.

## Theorems

* `ends_note`: A new pair goes to the end, and a known one stays.
* `condensed_dependencies`: The graph of some passes is condensed.
* `file_usersAmong`, `fileUse_filesOf`: One step of the walk.
* `fileUses_eq`: The whole walk.
* `filedDependencies_eq`: The walk leads to the dependency graph.
* `dependencies_exact`: The edges of the dependency graph.
-/

namespace FrameGraph

namespace DependencyEdge

/-- The two nodes an edge joins. -/
def ends (edge : DependencyEdge) : Nat × Nat := (edge.producer, edge.consumer)

theorem ends_noting (edge : DependencyEdge) (name : String) :
    (edge.noting name).ends = edge.ends := by
  rcases DependencyGraph.noting_ends edge name with ⟨hproducer, hconsumer⟩
  unfold ends
  rw [hproducer, hconsumer]

theorem nodup_noting (edge : DependencyEdge) (name : String) (h : edge.resources.Nodup) :
    (edge.noting name).resources.Nodup := by
  unfold noting
  by_cases hmem : name ∈ edge.resources
  · rw [if_pos hmem]
    exact h
  · rw [if_neg hmem]
    change (edge.resources ++ [name]).Nodup
    rw [← List.concat_eq_append]
    exact h.concat hmem

end DependencyEdge

namespace DependencyGraph

/-- Two nodes are joined by one edge at most, and no edge gives a reason
    twice. -/
structure Condensed (graph : DependencyGraph) : Prop where
  pairs : (graph.edges.map DependencyEdge.ends).Nodup
  reasons : ∀ edge ∈ graph.edges, edge.resources.Nodup

/-- Noting a reason puts the pair at the end, unless it is joined already. -/
theorem ends_note (producer consumer : Nat) (name : String) (edges : List DependencyEdge) :
    (note producer consumer name edges).map DependencyEdge.ends
      = edges.map DependencyEdge.ends
        ++ if (producer, consumer) ∈ edges.map DependencyEdge.ends then []
          else [(producer, consumer)] := by
  induction edges with
  | nil => rfl
  | cons edge rest ih =>
      by_cases h : edge.producer = producer ∧ edge.consumer = consumer
      · have hnote : note producer consumer name (edge :: rest) = edge.noting name :: rest :=
          if_pos h
        have hends : edge.ends = (producer, consumer) := Prod.ext h.1 h.2
        rw [hnote, List.map_cons, List.map_cons, DependencyEdge.ends_noting, hends,
          if_pos List.mem_cons_self, List.append_nil]
      · have hnote : note producer consumer name (edge :: rest)
            = edge :: note producer consumer name rest := if_neg h
        have hends : (producer, consumer) ≠ edge.ends := fun heq =>
          h ⟨(congrArg Prod.fst heq).symm, (congrArg Prod.snd heq).symm⟩
        rw [hnote, List.map_cons, ih, List.map_cons, List.cons_append]
        simp only [List.mem_cons, hends, false_or]

theorem condensed_new (size : Nat) : (new size).Condensed :=
  ⟨List.nodup_nil, fun _ hedge => absurd hedge List.not_mem_nil⟩

theorem Condensed.addEdge {graph : DependencyGraph} (h : graph.Condensed)
    (producer consumer : Nat) (name : String) :
    (graph.addEdge producer consumer name).Condensed := by
  unfold DependencyGraph.addEdge
  by_cases hself : producer = consumer
  · rw [if_pos hself]
    exact h
  · rw [if_neg hself]
    refine ⟨?_, forall_note (List.nodup_singleton name)
      (fun edge hedge => DependencyEdge.nodup_noting edge name hedge) graph.edges h.reasons⟩
    change ((note producer consumer name graph.edges).map DependencyEdge.ends).Nodup
    rw [ends_note]
    by_cases hjoined : (producer, consumer) ∈ graph.edges.map DependencyEdge.ends
    · rw [if_pos hjoined, List.append_nil]
      exact h.pairs
    · rw [if_neg hjoined, ← List.concat_eq_append]
      exact h.pairs.concat hjoined

theorem Condensed.addEdges {graph : DependencyGraph} (h : graph.Condensed) (name : String)
    (pairs : List (Nat × Nat)) :
    (pairs.foldl (fun graph pair => graph.addEdge pair.1 pair.2 name) graph).Condensed := by
  induction pairs generalizing graph with
  | nil => exact h
  | cons pair rest ih => exact ih (h.addEdge pair.1 pair.2 name)

end DependencyGraph

/-- Two passes are joined by one edge at most, whatever the reasons. -/
theorem condensed_dependencies (passes : List Pass) : (dependencies passes).Condensed := by
  unfold dependencies
  refine List.foldlRecOn (motive := DependencyGraph.Condensed) _ _
    (DependencyGraph.condensed_new passes.length) ?_
  intro graph hgraph name _
  exact hgraph.addEdges name _

/-- A pass that uses a resource, by its position, and whether it writes the
    resource. -/
structure ResourceUser where
  position : Nat
  writes : Bool
  deriving DecidableEq, Repr

namespace ResourceUser

/-- The users of a resource after one more use of it. A pass that used it
    before is the last of them, and it becomes a writer if the use writes. -/
def file (position : Nat) (writes : Bool) (users : List ResourceUser) : List ResourceUser :=
  match users.getLast? with
  | none => [⟨position, writes⟩]
  | some last =>
    if last.position = position then users.dropLast ++ [⟨position, last.writes || writes⟩]
    else users ++ [⟨position, writes⟩]

/-- The pairs that the users of one resource put in order: each writer before
    the next, then every writer before each reader. -/
def pairs (users : List ResourceUser) : List (Nat × Nat) :=
  let writers := (users.filter writes).map position
  writers.zip writers.tail
    ++ (users.filter fun user => !user.writes).flatMap fun reader =>
      writers.map fun writer => (writer, reader.position)

end ResourceUser

/-- File one use of the pass at a position under the name of its resource. -/
def fileUse (position : Nat) (files : Table String (List ResourceUser)) (usage : Usage) :
    Table String (List ResourceUser) :=
  files.put usage.resource
    (ResourceUser.file position usage.access.writes ((files.get? usage.resource).getD []))

/-- The users of every resource, filed use by use. -/
def fileUses (passes : List Pass) : Table String (List ResourceUser) :=
  passes.zipIdx.foldl (fun files entry => entry.1.usages.foldl (fileUse entry.2) files) []

/-- The dependency graph read off the files. -/
def filedDependencies (passes : List Pass) : DependencyGraph :=
  (fileUses passes).foldl
    (fun graph file =>
      (ResourceUser.pairs file.2).foldl
        (fun graph pair => graph.addEdge pair.1 pair.2 file.1) graph)
    (DependencyGraph.new passes.length)

namespace Pass

/-- The pass with one more use. -/
def withUsage (pass : Pass) (usage : Usage) : Pass :=
  { pass with usages := pass.usages ++ [usage] }

theorem uses_withUsage (pass : Pass) (usage : Usage) (resource : String) :
    (pass.withUsage usage).uses resource
      = (pass.uses resource || decide (usage.resource = resource)) := by
  simp only [uses, withUsage, List.any_append, List.any_cons, List.any_nil, Bool.or_false]

theorem writes_withUsage (pass : Pass) (usage : Usage) (resource : String) :
    (pass.withUsage usage).writes resource
      = (pass.writes resource
        || (decide (usage.resource = resource) && usage.access.writes)) := by
  simp only [writes, withUsage, List.any_append, List.any_cons, List.any_nil, Bool.or_false]

end Pass

/-- The users of a resource among some passes, in order of declaration. -/
def usersAmong (passes : List Pass) (resource : String) : List ResourceUser :=
  (passes.zipIdx.filter fun entry => entry.1.uses resource).map fun entry =>
    ⟨entry.2, entry.1.writes resource⟩

theorem usersAmong_concat (passes : List Pass) (pass : Pass) (resource : String) :
    usersAmong (passes ++ [pass]) resource
      = usersAmong passes resource
        ++ if pass.uses resource then [⟨passes.length, pass.writes resource⟩] else [] := by
  unfold usersAmong
  rw [List.zipIdx_append, List.filter_append, List.map_append, List.zipIdx_singleton,
    List.filter_singleton, Nat.zero_add]
  cases pass.uses resource <;> rfl

theorem position_lt_of_mem {passes : List Pass} {resource : String} {user : ResourceUser}
    (h : user ∈ usersAmong passes resource) : user.position < passes.length := by
  rcases List.mem_map.mp h with ⟨⟨pass, position⟩, hentry, rfl⟩
  exact List.snd_lt_of_mem_zipIdx (List.mem_filter.mp hentry).1

theorem usersAmong_of_notMem {passes : List Pass} {resource : String}
    (h : resource ∉ resourceNames passes) : usersAmong passes resource = [] := by
  unfold usersAmong
  rw [List.map_eq_nil_iff, List.filter_eq_nil_iff]
  rintro ⟨pass, position⟩ hentry huses
  exact h ((mem_resourceNames_iff passes resource).mpr
    ⟨pass, List.fst_mem_of_mem_zipIdx hentry, huses⟩)

/-- Filing a use of the last pass gives the users of its resource as they are
    with that use. -/
theorem file_usersAmong (done : List Pass) (pass : Pass) (usage : Usage) :
    ResourceUser.file done.length usage.access.writes
        (usersAmong (done ++ [pass]) usage.resource)
      = usersAmong (done ++ [pass.withUsage usage]) usage.resource := by
  rw [usersAmong_concat, usersAmong_concat, Pass.uses_withUsage, Pass.writes_withUsage,
    decide_eq_true rfl, Bool.or_true, Bool.true_and, if_pos rfl]
  by_cases huses : pass.uses usage.resource = true
  · -- The pass is on file already, as the last user.
    rw [if_pos huses]
    unfold ResourceUser.file
    rw [List.getLast?_concat]
    simp only [if_true, List.dropLast_concat]
  · have hwrites : pass.writes usage.resource = false := by
      rw [← Bool.not_eq_true]
      exact fun hwrites => huses (Pass.uses_of_writes hwrites)
    rw [if_neg huses, List.append_nil, hwrites, Bool.false_or]
    unfold ResourceUser.file
    cases hlast : (usersAmong done usage.resource).getLast? with
    | none => rw [List.getLast?_eq_none_iff.mp hlast, List.nil_append]
    | some last =>
        -- Whoever is on file was declared before.
        have hlt := position_lt_of_mem (List.mem_of_getLast? hlast)
        simp only []
        rw [if_neg (by omega)]

/-- The users of other resources stay as they are. -/
theorem usersAmong_withUsage_of_ne (done : List Pass) (pass : Pass) (usage : Usage)
    {resource : String} (h : usage.resource ≠ resource) :
    usersAmong (done ++ [pass.withUsage usage]) resource
      = usersAmong (done ++ [pass]) resource := by
  rw [usersAmong_concat, usersAmong_concat, Pass.uses_withUsage, Pass.writes_withUsage,
    decide_eq_false h, Bool.or_false, Bool.false_and, Bool.or_false]

theorem resourceNames_withUsage (done : List Pass) (pass : Pass) (usage : Usage) :
    resourceNames (done ++ [pass.withUsage usage])
      = resourceNames (done ++ [pass])
        ++ if usage.resource ∈ resourceNames (done ++ [pass]) then [] else [usage.resource] := by
  unfold resourceNames
  simp only [List.mem_eraseDups]
  rw [← eraseDups_concat]
  simp only [List.flatMap_append, List.flatMap_cons, List.flatMap_nil, List.append_nil,
    Pass.withUsage, List.map_append, List.map_cons, List.map_nil, List.append_assoc]

/-- The names in use, each with its users. -/
def filesOf (passes : List Pass) : Table String (List ResourceUser) :=
  (resourceNames passes).map fun resource => (resource, usersAmong passes resource)

/-- One step of the walk: the files of what has been read, with one more use
    of the last pass. -/
theorem fileUse_filesOf (done : List Pass) (pass : Pass) (usage : Usage) :
    fileUse done.length (filesOf (done ++ [pass])) usage
      = filesOf (done ++ [pass.withUsage usage]) := by
  have hfound : ((filesOf (done ++ [pass])).get? usage.resource).getD []
      = usersAmong (done ++ [pass]) usage.resource := by
    rw [filesOf, Table.get?_map]
    by_cases hmem : usage.resource ∈ resourceNames (done ++ [pass])
    · rw [if_pos hmem, Option.getD_some]
    · rw [if_neg hmem, Option.getD_none, usersAmong_of_notMem hmem]
  have hnodup : (resourceNames (done ++ [pass])).Nodup := nodup_eraseDups _
  rw [fileUse, hfound, file_usersAmong, filesOf, Table.put_map hnodup,
    ← resourceNames_withUsage, filesOf]
  refine List.map_congr_left ?_
  intro resource _
  by_cases h : resource = usage.resource
  · rw [if_pos h, h]
  · rw [if_neg h, usersAmong_withUsage_of_ne done pass usage (Ne.symm h)]

/-- The uses of one pass, on top of those it has been read with. -/
theorem fileUse_all (done : List Pass) (pass : Pass) (usages : List Usage) :
    usages.foldl (fileUse done.length) (filesOf (done ++ [pass]))
      = filesOf (done ++ [{ pass with usages := pass.usages ++ usages }]) := by
  induction usages generalizing pass with
  | nil =>
      rw [List.append_nil]
      rfl
  | cons usage rest ih =>
      rw [List.foldl_cons, fileUse_filesOf, ih]
      simp only [Pass.withUsage, List.append_assoc, List.cons_append, List.nil_append]

/-- A pass of which no use has been read leaves no trace in the files. -/
theorem filesOf_unread (done : List Pass) (pass : Pass) (h : pass.usages = []) :
    filesOf (done ++ [pass]) = filesOf done := by
  unfold filesOf resourceNames
  rw [List.flatMap_append, List.flatMap_singleton, h, List.map_nil, List.append_nil]
  refine List.map_congr_left ?_
  intro resource _
  have huses : ¬ pass.uses resource = true := by
    rw [Pass.uses, h]
    exact Bool.false_ne_true
  rw [usersAmong_concat, if_neg huses, List.append_nil]

/-- The walk files for every name in use the passes that use it. The induction
    is on the passes from the end, as the last one is read last. -/
theorem fileUses_eq (passes : List Pass) : fileUses passes = filesOf passes := by
  induction passes using List.reverseRecOn with
  | nil => rfl
  | append_singleton done pass ih =>
      unfold fileUses at ih ⊢
      rw [List.zipIdx_append, List.foldl_append, ih, List.zipIdx_singleton, List.foldl_cons,
        List.foldl_nil, Nat.zero_add, ← filesOf_unread done { pass with usages := [] } rfl,
        fileUse_all, List.nil_append]

/-- The users of a resource order the pairs that the resource orders. -/
theorem pairs_usersAmong (passes : List Pass) (resource : String) :
    ResourceUser.pairs (usersAmong passes resource) = dependencyPairs passes resource := by
  have hwriters : ((usersAmong passes resource).filter ResourceUser.writes).map
      ResourceUser.position = writersOf passes resource := by
    unfold usersAmong writersOf positionsWhere
    rw [List.filter_map, List.map_map, List.filter_filter]
    refine congrArg (List.map _) (List.filter_congr ?_)
    rintro ⟨pass, position⟩ _
    cases hwrites : pass.writes resource with
    | false => simp only [Function.comp_apply, hwrites, Bool.false_and]
    | true =>
        simp only [Function.comp_apply, hwrites, Pass.uses_of_writes hwrites, Bool.true_and]
  have hreaders : ((usersAmong passes resource).filter fun user => !user.writes).map
      ResourceUser.position = readersOf passes resource := by
    unfold usersAmong readersOf positionsWhere
    rw [List.filter_map, List.map_map, List.filter_filter]
    refine congrArg (List.map _) (List.filter_congr ?_)
    rintro ⟨pass, position⟩ _
    exact Bool.and_comm _ _
  unfold ResourceUser.pairs dependencyPairs
  simp only [hwriters]
  rw [← hreaders, List.flatMap_map]

/-- Walking over the uses leads to the dependency graph. -/
theorem filedDependencies_eq (passes : List Pass) :
    filedDependencies passes = dependencies passes := by
  unfold filedDependencies dependencies
  rw [fileUses_eq, filesOf, List.foldl_map]
  simp only [pairs_usersAmong]

section Declarations

variable (passes : List Pass) (resource : String) (position : Nat)

/-- Some use at a position is of the resource. -/
def DeclaresUse : Prop :=
  ∃ pass, passes[position]? = some pass ∧ ∃ usage ∈ pass.usages, usage.resource = resource

/-- Some use at a position writes the resource, whatever others do. -/
def DeclaresWrite : Prop :=
  ∃ pass, passes[position]? = some pass ∧ ∃ usage ∈ pass.usages,
    usage.resource = resource ∧ (usage.access = .write ∨ usage.access = .readWrite)

theorem writesAt_iff :
    WritesAt passes resource position ↔ DeclaresWrite passes resource position := by
  have haccess : ∀ access : Access,
      access.writes = true ↔ access = .write ∨ access = .readWrite := by
    intro access
    cases access <;> decide
  simp only [WritesAt, DeclaresWrite, Pass.writes, List.any_eq_true, Bool.and_eq_true,
    decide_eq_true_eq, haccess]

theorem readsAt_iff :
    ReadsAt passes resource position
      ↔ DeclaresUse passes resource position ∧ ¬ DeclaresWrite passes resource position := by
  rw [← writesAt_iff]
  unfold ReadsAt DeclaresUse WritesAt
  simp only [Pass.uses, List.any_eq_true, decide_eq_true_eq]
  constructor
  · rintro ⟨pass, hget, huses, hwrites⟩
    refine ⟨⟨pass, hget, huses⟩, ?_⟩
    rintro ⟨other, hother, htrue⟩
    rw [hget, Option.some.injEq] at hother
    rw [← hother, hwrites] at htrue
    exact Bool.false_ne_true htrue
  · rintro ⟨⟨pass, hget, huses⟩, hnot⟩
    exact ⟨pass, hget, huses, Bool.eq_false_iff.mpr fun htrue => hnot ⟨pass, hget, htrue⟩⟩

end Declarations

/-- The dependency graph of some passes, which is also what walking over all
    their uses leads to, has an edge from one position to another for a
    resource exactly if these are two positions, and either both write the
    resource, in this order and with no writer between them, or the first
    writes it and the second uses it without writing it. There is one edge for
    a pair at most, and on an edge no resource is named twice. -/
theorem dependencies_exact (passes : List Pass) :
    filedDependencies passes = dependencies passes
      ∧ (∀ (u v : Nat) (resource : String),
          (∃ edge ∈ (dependencies passes).edges,
              edge.producer = u ∧ edge.consumer = v ∧ resource ∈ edge.resources)
            ↔ u ≠ v
              ∧ (u < v ∧ DeclaresWrite passes resource u ∧ DeclaresWrite passes resource v
                  ∧ (∀ w, u < w → w < v → ¬ DeclaresWrite passes resource w)
                ∨ DeclaresWrite passes resource u ∧ DeclaresUse passes resource v
                  ∧ ¬ DeclaresWrite passes resource v))
      ∧ ((dependencies passes).edges.map DependencyEdge.ends).Nodup
      ∧ ∀ edge ∈ (dependencies passes).edges, edge.resources.Nodup := by
  have hcondensed := condensed_dependencies passes
  refine ⟨filedDependencies_eq passes, ?_, hcondensed.pairs, hcondensed.reasons⟩
  intro u v resource
  have hcarries : (∃ edge ∈ (dependencies passes).edges,
      edge.producer = u ∧ edge.consumer = v ∧ resource ∈ edge.resources)
        ↔ Precedes passes resource u v := carries_dependencies passes u v resource
  rw [hcarries]
  have hne := Precedes.ne passes resource (u := u) (v := v)
  unfold Precedes at hne ⊢
  simp only [writesAt_iff, readsAt_iff] at hne ⊢
  exact (and_iff_right_of_imp hne).symm

end FrameGraph
