import FrameGraph.Proofs.Countdown
import FrameGraph.Proofs.ExactEdges
import FrameGraph.Proofs.Requests

/-!
# One Relation, Kept Three Times

A dependency graph here is its list of edges. Successors and in-degrees are read
off the list, so they agree with it. Sorting looks for the successors of a node
whenever one is placed, and the usual graph has them at hand: beside the edges it
keeps a row of successors for every node, and a counter of the nodes that come
before it. One relation is then kept three times. A pair that is joined for the
first time has to be entered in all three places, and one that is joined already
in none, while its edge may get another name.

`KeptGraph` is that graph, and it has no answer where a node is out of range.
`KeptGraph.ofGraph` writes down beside the edges of a graph what is read off them,
and adding an edge keeps this so (`KeptGraph.addEdge?_ofGraph`). From there on the
rows and counters are those of the list, and the loop that counts down by them
does what it does with the graph (`KeptGraph.countedOrder_ofGraph`), which never
takes a counter below zero.

What the list holds can be said of the requests alone, without the graph that was
grown on the way. A request puts its pair at the end if it is the first for this
pair, and its name at the end of the names if it is the first that gives it, so
pairs and names are those of the requests without repetitions
(`DependencyGraph.edges_ofRequests`). Rows and counters follow. Among the pairs
with one node in common, the other node tells them apart, so leaving out repeated
pairs is leaving out repeated nodes (`map_filter_eraseDups`).

## Main definitions

* `KeptGraph`: A graph with its successors and in-degrees beside its edges.
* `KeptGraph.addEdge?`, `KeptGraph.ofRequests?`: One more edge, and several.
* `KeptGraph.countDown`, `KeptGraph.countedOrder`: The order, by what is kept.
* `KeptGraph.ofGraph`: What is kept of a dependency graph.
* `DependencyGraph.pairs`: The pairs that are joined.
* `Countdown.InRange`: The counters and ready nodes are those of nodes.
* `EdgeRequest.ends`: The two nodes a request is about.
* `askedPairs`, `reasonsFor`: The pairs that were asked for, and the names given.
* `DependencyGraph.edgeFor`: The edge of a pair, with given names.

## Theorems

* `DependencyGraph.pairs_addEdge`: What adding an edge does to the pairs.
* `KeptGraph.ofGraph_addEdge_joined`, `KeptGraph.ofGraph_addEdge_new`: What it does
  to what is kept.
* `KeptGraph.addEdge?_ofGraph`, `KeptGraph.ofRequests?_eq`: What is kept stays in
  step with the graph.
* `Countdown.InRange.releaseAll`: Counting down stays in range.
* `KeptGraph.countDown_ofGraph`, `KeptGraph.countedOrder_ofGraph`: Counting down by
  what is kept.
* `DependencyGraph.edges_ofRequests`: The edges after some requests.
* `DependencyGraph.successors_ofRequests`, `DependencyGraph.inDegree_ofRequests`:
  The successors and in-degrees.
* `requests_kept`: What is there after some requests, in all three places.
-/

namespace FrameGraph

/-- A graph that keeps, beside its edges, the successors of every node and how many
    nodes it directly depends on. -/
structure KeptGraph where
  size : Nat
  successors : List (List Nat)
  inDegrees : List Nat
  edges : List DependencyEdge
  deriving DecidableEq, Repr

namespace KeptGraph

/-- The graph without edges. -/
def new (size : Nat) : KeptGraph :=
  ⟨size, List.replicate size [], List.replicate size 0, []⟩

/-- The edges after one more reason on the edge of a pair. Nothing changes if there
    is no such edge. -/
def noteAgain (producer consumer : Nat) (resource : String) :
    List DependencyEdge → List DependencyEdge
  | [] => []
  | edge :: rest =>
    if edge.producer = producer ∧ edge.consumer = consumer then edge.noting resource :: rest
    else edge :: noteAgain producer consumer resource rest

/-- Put `producer` before `consumer` because of a resource. There is no answer if
    what is kept of a node is asked for and there is no such node. -/
def addEdge? (graph : KeptGraph) (producer consumer : Nat) (resource : String) :
    Option KeptGraph :=
  if producer = consumer then some graph
  else
    (graph.successors[producer]?).bind fun row =>
      if consumer ∈ row then
        some { graph with edges := noteAgain producer consumer resource graph.edges }
      else
        (graph.inDegrees[consumer]?).map fun count =>
          { graph with
            successors := graph.successors.set producer (row ++ [consumer])
            inDegrees := graph.inDegrees.set consumer (count + 1)
            edges := graph.edges ++ [⟨producer, consumer, [resource]⟩] }

/-- The graph over the nodes below `size` after some requests, in order. -/
def ofRequests? (size : Nat) (requests : List EdgeRequest) : Option KeptGraph :=
  requests.foldlM
    (fun graph request => graph.addEdge? request.producer request.consumer request.resource)
    (new size)

/-- Place the smallest ready node and count its successors down until none is
    ready, as `DependencyGraph.countDown` does. -/
def countDown (graph : KeptGraph) : Nat → Countdown → Option (List Nat × Countdown)
  | 0, state => if state.ready = [] then some ([], state) else none
  | rounds + 1, state =>
    match state.ready with
    | [] => some ([], state)
    | node :: rest =>
      (graph.successors[node]?).bind fun row =>
        (row.foldlM Countdown.release ⟨state.counts, rest⟩).bind fun next =>
          (graph.countDown rounds next).map fun answer => (node :: answer.1, answer.2)

/-- All nodes, producers before consumers, or the nodes whose counters are left
    above zero. The counters start as a copy of the ones kept. -/
def countedOrder (graph : KeptGraph) : Option (Except (List Nat) (List Nat)) :=
  let nodes := List.range graph.size
  let start := Countdown.mk graph.inDegrees
    (nodes.filter fun node => graph.inDegrees[node]? = some 0)
  (graph.countDown graph.size start).map fun answer =>
    if answer.1.length = graph.size then .ok answer.1
    else .error (nodes.filter fun node => 0 < (answer.2.counts[node]?).getD 0)

/-- A graph, with what is read off its edges written down beside them. -/
def ofGraph (graph : DependencyGraph) : KeptGraph where
  size := graph.size
  successors := (List.range graph.size).map graph.successors
  inDegrees := (List.range graph.size).map graph.inDegree
  edges := graph.edges

end KeptGraph

namespace DependencyGraph

/-- The pairs that are joined, in order of first insertion. -/
def pairs (graph : DependencyGraph) : List (Nat × Nat) := graph.edges.map DependencyEdge.ends

theorem mem_pairs_iff (graph : DependencyGraph) (u v : Nat) :
    (u, v) ∈ graph.pairs ↔ graph.Joined u v := by
  unfold pairs Joined DependencyEdge.ends
  simp only [List.mem_map, Prod.mk.injEq]

theorem mem_successors_iff (graph : DependencyGraph) (u v : Nat) :
    v ∈ graph.successors u ↔ graph.Joined u v := by
  unfold successors Joined
  simp only [List.mem_map, List.mem_filter, decide_eq_true_eq, and_assoc]

theorem successors_eq (graph : DependencyGraph) (node : Nat) :
    graph.successors node = (graph.pairs.filter fun pair => pair.1 = node).map Prod.snd := by
  unfold successors pairs
  rw [List.filter_map, List.map_map]
  rfl

theorem inDegree_eq (graph : DependencyGraph) (node : Nat) :
    graph.inDegree node = graph.pairs.countP fun pair => pair.2 = node := by
  unfold inDegree pairs
  rw [List.countP_map]
  rfl

/-- Adding an edge puts its pair at the end, unless the pair is joined already. -/
theorem pairs_addEdge (graph : DependencyGraph) {producer consumer : Nat}
    (hne : producer ≠ consumer) (name : String) :
    (graph.addEdge producer consumer name).pairs
      = graph.pairs ++ if (producer, consumer) ∈ graph.pairs then [] else [(producer, consumer)] := by
  unfold addEdge pairs
  rw [if_neg hne]
  exact ends_note producer consumer name graph.edges

/-- Where there is no edge, one is put at the end. -/
theorem note_of_notMem {producer consumer : Nat} {name : String}
    {edges : List DependencyEdge} (h : (producer, consumer) ∉ edges.map DependencyEdge.ends) :
    note producer consumer name edges = edges ++ [⟨producer, consumer, [name]⟩] := by
  induction edges with
  | nil => rfl
  | cons edge rest ih =>
      rw [List.map_cons, List.mem_cons, not_or] at h
      have hother : ¬ (edge.producer = producer ∧ edge.consumer = consumer) := fun hends =>
        h.1 (Prod.ext hends.1.symm hends.2.symm)
      rw [note, if_neg hother, ih h.2, List.cons_append]

end DependencyGraph

namespace KeptGraph

/-- On an edge that is there, a reason is noted. -/
theorem noteAgain_eq {producer consumer : Nat} {name : String} {edges : List DependencyEdge}
    (h : (producer, consumer) ∈ edges.map DependencyEdge.ends) :
    noteAgain producer consumer name edges = DependencyGraph.note producer consumer name edges := by
  induction edges with
  | nil => exact absurd h List.not_mem_nil
  | cons edge rest ih =>
      rw [noteAgain, DependencyGraph.note]
      split
      · rfl
      · next hother =>
          rw [List.map_cons, List.mem_cons] at h
          rcases h with hends | hrest
          · exact absurd ⟨(congrArg Prod.fst hends).symm, (congrArg Prod.snd hends).symm⟩ hother
          · rw [ih hrest]

section Adding

variable (graph : DependencyGraph)

theorem getElem?_successors (node : Nat) :
    (ofGraph graph).successors[node]?
      = if node < graph.size then some (graph.successors node) else none :=
  getElem?_map_range graph.size graph.successors node

theorem getElem?_inDegrees (node : Nat) :
    (ofGraph graph).inDegrees[node]?
      = if node < graph.size then some (graph.inDegree node) else none :=
  getElem?_map_range graph.size graph.inDegree node

/-- A pair that is joined already leaves what is kept of the nodes as it is. -/
theorem ofGraph_addEdge_joined {producer consumer : Nat} (hne : producer ≠ consumer)
    (hjoined : graph.Joined producer consumer) (name : String) :
    ofGraph (graph.addEdge producer consumer name)
      = { ofGraph graph with edges := noteAgain producer consumer name graph.edges } := by
  have hmem := (graph.mem_pairs_iff producer consumer).mpr hjoined
  have hpairs := graph.pairs_addEdge hne name
  rw [if_pos hmem, List.append_nil] at hpairs
  have hsuccessors : (graph.addEdge producer consumer name).successors = graph.successors := by
    funext node
    rw [DependencyGraph.successors_eq, DependencyGraph.successors_eq, hpairs]
  have hinDegree : (graph.addEdge producer consumer name).inDegree = graph.inDegree := by
    funext node
    rw [DependencyGraph.inDegree_eq, DependencyGraph.inDegree_eq, hpairs]
  unfold ofGraph
  rw [hsuccessors, hinDegree, graph.size_addEdge, noteAgain_eq hmem, DependencyGraph.addEdge,
    if_neg hne]

/-- A pair that is joined for the first time is entered in all three places. -/
theorem ofGraph_addEdge_new {producer consumer : Nat} (hne : producer ≠ consumer)
    (hnew : ¬ graph.Joined producer consumer) (hproducer : producer < graph.size)
    (hconsumer : consumer < graph.size) (name : String) :
    ofGraph (graph.addEdge producer consumer name)
      = { ofGraph graph with
          successors := (ofGraph graph).successors.set producer
            (graph.successors producer ++ [consumer])
          inDegrees := (ofGraph graph).inDegrees.set consumer (graph.inDegree consumer + 1)
          edges := graph.edges ++ [⟨producer, consumer, [name]⟩] } := by
  have hmem : (producer, consumer) ∉ graph.pairs :=
    fun hmem => hnew ((graph.mem_pairs_iff producer consumer).mp hmem)
  have hpairs := graph.pairs_addEdge hne name
  rw [if_neg hmem] at hpairs
  have hsuccessors : (graph.addEdge producer consumer name).successors
      = Function.update graph.successors producer (graph.successors producer ++ [consumer]) := by
    funext node
    rw [DependencyGraph.successors_eq, hpairs, List.filter_append, List.map_append,
      ← graph.successors_eq]
    by_cases hnode : node = producer
    · rw [hnode, Function.update_self, List.filter_singleton, decide_eq_true rfl]
      rfl
    · rw [Function.update_of_ne hnode, List.filter_singleton, decide_eq_false (Ne.symm hnode)]
      exact List.append_nil _
  have hinDegree : (graph.addEdge producer consumer name).inDegree
      = Function.update graph.inDegree consumer (graph.inDegree consumer + 1) := by
    funext node
    rw [DependencyGraph.inDegree_eq, hpairs, List.countP_append, List.countP_singleton,
      ← graph.inDegree_eq]
    by_cases hnode : node = consumer
    · rw [hnode, Function.update_self, decide_eq_true rfl, if_pos rfl]
    · rw [Function.update_of_ne hnode, decide_eq_false (Ne.symm hnode),
        if_neg Bool.false_ne_true, Nat.add_zero]
  unfold ofGraph
  rw [hsuccessors, hinDegree, graph.size_addEdge, map_range_set _ _ _ _ hproducer,
    map_range_set _ _ _ _ hconsumer, DependencyGraph.addEdge, if_neg hne]
  simp only [DependencyGraph.note_of_notMem hmem]

/-- Adding an edge to what is kept of a graph gives what is kept of the graph with
    the edge, and there is no answer where a node is not there. -/
theorem addEdge?_ofGraph
    (hbound : ∀ u v, graph.Joined u v → u < graph.size ∧ v < graph.size)
    (producer consumer : Nat) (name : String) :
    (ofGraph graph).addEdge? producer consumer name
      = (graph.addEdge? producer consumer name).map ofGraph := by
  unfold addEdge? DependencyGraph.addEdge?
  by_cases hself : producer = consumer
  · rw [if_pos hself, if_pos (Or.inl hself), Option.map_some, DependencyGraph.addEdge,
      if_pos hself]
  · rw [if_neg hself, getElem?_successors]
    by_cases hproducer : producer < graph.size
    · rw [if_pos hproducer, Option.bind_some]
      by_cases hrow : consumer ∈ graph.successors producer
      · have hjoined := (graph.mem_successors_iff producer consumer).mp hrow
        rw [if_pos hrow, if_pos (Or.inr (hbound producer consumer hjoined)), Option.map_some,
          ofGraph_addEdge_joined graph hself hjoined]
        rfl
      · have hnew : ¬ graph.Joined producer consumer := fun hjoined =>
          hrow ((graph.mem_successors_iff producer consumer).mpr hjoined)
        rw [if_neg hrow, getElem?_inDegrees]
        by_cases hconsumer : consumer < graph.size
        · rw [if_pos hconsumer, if_pos (Or.inr ⟨hproducer, hconsumer⟩), Option.map_some,
            Option.map_some, ofGraph_addEdge_new graph hself hnew hproducer hconsumer]
          rfl
        · have hnot : ¬ (producer = consumer ∨ producer < graph.size ∧ consumer < graph.size) :=
            not_or.mpr ⟨hself, fun hnodes => hconsumer hnodes.2⟩
          rw [if_neg hconsumer, if_neg hnot, Option.map_none, Option.map_none]
    · have hnot : ¬ (producer = consumer ∨ producer < graph.size ∧ consumer < graph.size) :=
        not_or.mpr ⟨hself, fun hnodes => hproducer hnodes.1⟩
      rw [if_neg hproducer, if_neg hnot, Option.bind_none, Option.map_none]

end Adding

theorem ofGraph_new (size : Nat) : ofGraph (DependencyGraph.new size) = new size := by
  have hsuccessors : (DependencyGraph.new size).successors = fun _ => [] := rfl
  have hinDegree : (DependencyGraph.new size).inDegree = fun _ => 0 := rfl
  unfold ofGraph new
  rw [hsuccessors, hinDegree, List.map_const', List.map_const']
  simp only [DependencyGraph.new, List.length_range]

theorem ofRequests?_concat (size : Nat) (requests : List EdgeRequest) (last : EdgeRequest) :
    ofRequests? size (requests ++ [last])
      = (ofRequests? size requests).bind fun graph =>
        graph.addEdge? last.producer last.consumer last.resource := by
  unfold ofRequests?
  rw [List.foldlM_append, Option.bind_eq_bind]
  simp only [List.foldlM_cons, List.foldlM_nil, bind_pure]

/-- The requests one after the other lead to what is kept of their graph. -/
theorem ofRequests?_eq (size : Nat) (requests : List EdgeRequest)
    (hbelow : RequestsBelow size requests) :
    ofRequests? size requests = some (ofGraph (DependencyGraph.ofRequests size requests)) := by
  induction requests using List.reverseRecOn with
  | nil => exact congrArg some (ofGraph_new size).symm
  | append_singleton before last ih =>
      have hbefore : RequestsBelow size before := fun request hrequest =>
        hbelow request (List.mem_append_left _ hrequest)
      have hlast := hbelow last (List.mem_append_right _ List.mem_cons_self)
      rw [← DependencyGraph.size_ofRequests size before] at hlast
      rw [ofRequests?_concat, ih hbefore, Option.bind_some,
        addEdge?_ofGraph _ (DependencyGraph.joined_ofRequests_lt size before hbefore),
        DependencyGraph.addEdge?, if_pos (Or.inr hlast), Option.map_some,
        DependencyGraph.ofRequests_concat]

end KeptGraph

namespace Countdown

/-- There is a counter for each node, and only nodes are ready. -/
structure InRange (size : Nat) (state : Countdown) : Prop where
  counts : state.counts.length = size
  ready : ∀ node ∈ state.ready, node < size

theorem InRange.release {size : Nat} {state next : Countdown} (h : state.InRange size) {node : Nat}
    (hrelease : state.release node = some next) : next.InRange size := by
  unfold Countdown.release at hrelease
  split at hrelease
  · next count hcount =>
    rcases Option.some.inj hrelease with rfl
    rcases List.getElem?_eq_some_iff.mp hcount with ⟨hnode, _⟩
    refine ⟨List.length_set.trans h.counts, ?_⟩
    intro other hother
    split at hother
    · rcases (List.mem_orderedInsert _).mp hother with rfl | hother
      · exact h.counts ▸ hnode
      · exact h.ready other hother
    · exact h.ready other hother
  · exact absurd hrelease.symm (Option.some_ne_none next)

theorem InRange.releaseAll {size : Nat} {state next : Countdown} (h : state.InRange size)
    {consumers : List Nat} (hrelease : consumers.foldlM Countdown.release state = some next) :
    next.InRange size := by
  induction consumers generalizing state with
  | nil => exact Option.some.inj hrelease ▸ h
  | cons first rest ih =>
      rw [List.foldlM_cons, Option.bind_eq_bind] at hrelease
      rcases Option.bind_eq_some_iff.mp hrelease with ⟨middle, hfirst, hrest⟩
      exact ih (h.release hfirst) hrest

end Countdown

namespace KeptGraph

/-- Counting down with what is kept of a graph does what it does with the graph. -/
theorem countDown_ofGraph (graph : DependencyGraph) (rounds : Nat) {state : Countdown}
    (h : state.InRange graph.size) :
    (ofGraph graph).countDown rounds state = graph.countDown rounds state := by
  induction rounds generalizing state with
  | zero => rfl
  | succ rounds ih =>
      rw [countDown, DependencyGraph.countDown]
      cases hready : state.ready with
      | nil => rfl
      | cons node rest =>
          have hnode : node < graph.size := h.ready node (hready ▸ List.mem_cons_self)
          have hrest : (Countdown.mk state.counts rest).InRange graph.size :=
            ⟨h.counts, fun other hother =>
              h.ready other (hready ▸ List.mem_cons_of_mem node hother)⟩
          simp only [getElem?_successors, if_pos hnode, Option.bind_some]
          cases hnext : (graph.successors node).foldlM Countdown.release ⟨state.counts, rest⟩ with
          | none => rfl
          | some next => rw [Option.bind_some, Option.bind_some, ih (hrest.releaseAll hnext)]

/-- So it leads to the same order, or to the same report. -/
theorem countedOrder_ofGraph (graph : DependencyGraph) :
    (ofGraph graph).countedOrder = graph.countedOrder := by
  have hready : (List.range graph.size).filter
      (fun node => (ofGraph graph).inDegrees[node]? = some 0)
        = (List.range graph.size).filter fun node => graph.inDegree node = 0 := by
    refine List.filter_congr ?_
    intro node hnode
    rw [getElem?_inDegrees, if_pos (List.mem_range.mp hnode)]
    simp only [Option.some.injEq]
  have hstart : (Countdown.mk ((List.range graph.size).map graph.inDegree)
      ((List.range graph.size).filter fun node => graph.inDegree node = 0)).InRange graph.size :=
    ⟨by rw [List.length_map, List.length_range],
      fun node hnode => List.mem_range.mp (List.mem_filter.mp hnode).1⟩
  unfold countedOrder DependencyGraph.countedOrder
  change Option.map _ ((ofGraph graph).countDown graph.size
    ⟨_, (List.range graph.size).filter
      (fun node => (ofGraph graph).inDegrees[node]? = some 0)⟩) = _
  rw [hready]
  exact congrArg (Option.map _) (countDown_ofGraph graph graph.size hstart)

end KeptGraph

/-- The two nodes a request is about. -/
def EdgeRequest.ends (request : EdgeRequest) : Nat × Nat := (request.producer, request.consumer)

/-- The pairs that some requests join, in order of the first request for each. -/
def askedPairs (requests : List EdgeRequest) : List (Nat × Nat) :=
  ((requests.filter fun request => request.producer ≠ request.consumer).map
    EdgeRequest.ends).eraseDups

/-- The names that some requests give for a pair, in order of the first request for
    each. -/
def reasonsFor (requests : List EdgeRequest) (pair : Nat × Nat) : List String :=
  ((requests.filter fun request => request.ends = pair).map EdgeRequest.resource).eraseDups

theorem askedPairs_concat (requests : List EdgeRequest) (last : EdgeRequest) :
    askedPairs (requests ++ [last])
      = askedPairs requests
        ++ if last.producer = last.consumer ∨ last.ends ∈ askedPairs requests then []
          else [last.ends] := by
  unfold askedPairs
  rw [List.filter_append, List.map_append]
  by_cases hself : last.producer = last.consumer
  · rw [if_pos (Or.inl hself)]
    simp only [List.filter_cons, hself, ne_eq, not_true_eq_false, decide_false,
      Bool.false_eq_true, if_false, List.filter_nil, List.map_nil, List.append_nil]
  · simp only [List.filter_cons, hself, ne_eq, not_false_eq_true, decide_true, if_true,
      List.filter_nil, List.map_cons, List.map_nil, eraseDups_concat, List.mem_eraseDups, false_or]

theorem ne_of_mem_askedPairs {requests : List EdgeRequest} {pair : Nat × Nat}
    (h : pair ∈ askedPairs requests) : pair.1 ≠ pair.2 := by
  rcases List.mem_map.mp (List.mem_eraseDups.mp h) with ⟨request, hrequest, rfl⟩
  exact of_decide_eq_true (List.mem_filter.mp hrequest).2

/-- A request gives a name for its own pair. -/
theorem reasonsFor_concat_self (requests : List EdgeRequest) (last : EdgeRequest) :
    reasonsFor (requests ++ [last]) last.ends
      = reasonsFor requests last.ends
        ++ if last.resource ∈ reasonsFor requests last.ends then [] else [last.resource] := by
  unfold reasonsFor
  rw [List.filter_append, List.map_append]
  simp only [List.filter_cons, decide_true, if_true, List.filter_nil, List.map_cons, List.map_nil,
    eraseDups_concat, List.mem_eraseDups]

theorem reasonsFor_concat_of_ne (requests : List EdgeRequest) {last : EdgeRequest}
    {pair : Nat × Nat} (h : last.ends ≠ pair) :
    reasonsFor (requests ++ [last]) pair = reasonsFor requests pair := by
  unfold reasonsFor
  rw [List.filter_append, List.map_append]
  simp only [List.filter_cons, h, decide_false, Bool.false_eq_true, if_false, List.filter_nil,
    List.map_nil, List.append_nil]

/-- Nobody gave a name for a pair that was not asked for. -/
theorem reasonsFor_of_notMem {requests : List EdgeRequest} {pair : Nat × Nat}
    (hne : pair.1 ≠ pair.2) (h : pair ∉ askedPairs requests) : reasonsFor requests pair = [] := by
  have hnone : (requests.filter fun request => request.ends = pair) = [] := by
    rw [List.filter_eq_nil_iff]
    intro request hrequest hends
    have hends : request.ends = pair := of_decide_eq_true hends
    refine h (List.mem_eraseDups.mpr (List.mem_map.mpr ⟨request, ?_, hends⟩))
    refine List.mem_filter.mpr ⟨hrequest, decide_eq_true ?_⟩
    rw [← hends] at hne
    exact hne
  rw [reasonsFor, hnone]
  rfl

namespace DependencyGraph

/-- The edge of a pair, with the names that are given for it. -/
def edgeFor (reasons : Nat × Nat → List String) (pair : Nat × Nat) : DependencyEdge :=
  ⟨pair.1, pair.2, reasons pair⟩

theorem map_ends_edgeFor (reasons : Nat × Nat → List String) (pairs : List (Nat × Nat)) :
    (pairs.map (edgeFor reasons)).map DependencyEdge.ends = pairs := by
  rw [List.map_map]
  exact List.map_id pairs

/-- Where a pair is joined, a name changes what is given for this pair alone. -/
theorem note_edgeFor {pairs : List (Nat × Nat)} (hnodup : pairs.Nodup)
    (reasons : Nat × Nat → List String) {pair : Nat × Nat} (hpair : pair ∈ pairs) (name : String) :
    note pair.1 pair.2 name (pairs.map (edgeFor reasons))
      = pairs.map fun other =>
          if other = pair then (edgeFor reasons other).noting name else edgeFor reasons other := by
  induction pairs with
  | nil => exact absurd hpair List.not_mem_nil
  | cons first rest ih =>
      rw [List.nodup_cons] at hnodup
      rw [List.map_cons, List.map_cons, note]
      by_cases hfirst : first = pair
      · subst hfirst
        rw [if_pos ⟨rfl, rfl⟩, if_pos rfl]
        refine congrArg (List.cons _) (List.map_congr_left ?_)
        intro other hother
        have hne : other ≠ first := fun heq => hnodup.1 (heq ▸ hother)
        rw [if_neg hne]
      · have hother : ¬ ((edgeFor reasons first).producer = pair.1
            ∧ (edgeFor reasons first).consumer = pair.2) := fun hends =>
          hfirst (Prod.ext hends.1 hends.2)
        have hrest : pair ∈ rest := (List.mem_cons.mp hpair).resolve_left (Ne.symm hfirst)
        rw [if_neg hother, if_neg hfirst, ih hnodup.2 hrest]

/-- A request gives a name to the edge of its pair. -/
theorem edgeFor_concat_self (requests : List EdgeRequest) (last : EdgeRequest) :
    edgeFor (reasonsFor (requests ++ [last])) last.ends
      = (edgeFor (reasonsFor requests) last.ends).noting last.resource := by
  unfold edgeFor DependencyEdge.noting
  rw [reasonsFor_concat_self]
  simp only
  split
  · rw [List.append_nil]
  · rfl

/-- It changes nothing for other pairs. -/
theorem edgeFor_concat_of_ne (requests : List EdgeRequest) {last : EdgeRequest}
    {pair : Nat × Nat} (h : pair ≠ last.ends) :
    edgeFor (reasonsFor (requests ++ [last])) pair = edgeFor (reasonsFor requests) pair := by
  rw [edgeFor, edgeFor, reasonsFor_concat_of_ne requests (Ne.symm h)]

/-- The edges after some requests: one for each pair that was asked for, in order,
    with the names that were given for the pair, in order. -/
theorem edges_ofRequests (size : Nat) (requests : List EdgeRequest) :
    (ofRequests size requests).edges
      = (askedPairs requests).map (edgeFor (reasonsFor requests)) := by
  induction requests using List.reverseRecOn with
  | nil => rfl
  | append_singleton before last ih =>
      rw [ofRequests_concat, askedPairs_concat, addEdge]
      by_cases hself : last.producer = last.consumer
      · rw [if_pos hself, if_pos (Or.inl hself), List.append_nil, ih]
        refine List.map_congr_left fun pair hpair => (edgeFor_concat_of_ne before ?_).symm
        rintro rfl
        exact ne_of_mem_askedPairs hpair hself
      · rw [if_neg hself]
        refine (congrArg (note last.producer last.consumer last.resource) ih).trans ?_
        by_cases hjoined : last.ends ∈ askedPairs before
        · rw [if_pos (Or.inr hjoined), List.append_nil]
          refine (note_edgeFor (nodup_eraseDups _) _ hjoined last.resource).trans ?_
          refine List.map_congr_left fun pair _ => ?_
          split
          · next hpair => rw [hpair, edgeFor_concat_self]
          · next hpair => rw [edgeFor_concat_of_ne before hpair]
        · -- The pair is asked for the first time, so nobody gave a name for it before.
          have hnew : last.ends ∉ ((askedPairs before).map
              (edgeFor (reasonsFor before))).map DependencyEdge.ends := by
            rw [map_ends_edgeFor]
            exact hjoined
          have hlast : edgeFor (reasonsFor (before ++ [last])) last.ends
              = ⟨last.producer, last.consumer, [last.resource]⟩ := by
            rw [edgeFor_concat_self, edgeFor, reasonsFor_of_notMem hself hjoined]
            rfl
          rw [if_neg (not_or.mpr ⟨hself, hjoined⟩), List.map_append, List.map_singleton, hlast]
          refine (note_of_notMem hnew).trans (congrArg (· ++ _) ?_)
          refine List.map_congr_left fun pair hpair => (edgeFor_concat_of_ne before ?_).symm
          rintro rfl
          exact hjoined hpair

theorem pairs_ofRequests (size : Nat) (requests : List EdgeRequest) :
    (ofRequests size requests).pairs = askedPairs requests := by
  rw [pairs, edges_ofRequests, map_ends_edgeFor]

end DependencyGraph

/-- Leaving out first what fails a test, and telling what is left apart by what it is
    mapped to, keeps the same first occurrences. -/
theorem map_filter_eraseDups {α β : Type} [BEq α] [LawfulBEq α] [BEq β] [LawfulBEq β]
    (list : List α) (test : α → Bool) (f : α → β)
    (hinj : ∀ a b, test a = true → test b = true → f a = f b → a = b) :
    (list.eraseDups.filter test).map f = ((list.filter test).map f).eraseDups := by
  induction list using List.reverseRecOn with
  | nil => rfl
  | append_singleton list last ih =>
      rw [eraseDups_concat, List.filter_append, List.map_append, ih, List.filter_append,
        List.map_append]
      cases hlast : test last with
      | false =>
          have hnone : (if last ∈ list then [] else [last]).filter test = [] := by
            split
            · rfl
            · rw [List.filter_cons_of_neg (by rw [hlast]; exact Bool.false_ne_true)]
              rfl
          rw [hnone, List.filter_cons_of_neg (by rw [hlast]; exact Bool.false_ne_true)]
          simp only [List.map_nil, List.filter_nil, List.append_nil]
      | true =>
          -- What it is mapped to has come before exactly if it has come itself.
          have hmem : f last ∈ (list.filter test).map f ↔ last ∈ list := by
            constructor
            · intro hmem
              rcases List.mem_map.mp hmem with ⟨other, hother, heq⟩
              rw [List.mem_filter] at hother
              exact hinj other last hother.2 hlast heq ▸ hother.1
            · intro hmem
              exact List.mem_map_of_mem (List.mem_filter.mpr ⟨hmem, hlast⟩)
          rw [List.filter_cons_of_pos hlast, List.filter_nil, List.map_singleton,
            eraseDups_concat]
          simp only [hmem]
          split
          · rfl
          · rw [List.filter_cons_of_pos hlast]
            rfl

namespace DependencyGraph

/-- The nodes that were asked to come after a node, in order of the first request
    for each. -/
theorem successors_ofRequests (size : Nat) (requests : List EdgeRequest) (node : Nat) :
    (ofRequests size requests).successors node
      = ((requests.filter fun request =>
          request.producer = node ∧ request.consumer ≠ node).map EdgeRequest.consumer).eraseDups := by
  have hinj : ∀ first second : Nat × Nat, decide (first.1 = node) = true →
      decide (second.1 = node) = true → first.2 = second.2 → first = second := by
    intro first second hfirst hsecond hsame
    exact Prod.ext ((of_decide_eq_true hfirst).trans (of_decide_eq_true hsecond).symm) hsame
  rw [successors_eq, pairs_ofRequests, askedPairs, map_filter_eraseDups _ _ _ hinj,
    List.filter_map, List.map_map, List.filter_filter]
  refine congrArg (fun asked => (List.map _ asked).eraseDups) (List.filter_congr ?_)
  intro request _
  rw [Bool.eq_iff_iff]
  simp only [Function.comp_apply, Bool.and_eq_true, decide_eq_true_eq]
  refine and_congr_right ?_
  rintro rfl
  exact ne_comm

/-- How many nodes were asked to come before a node. -/
theorem inDegree_ofRequests (size : Nat) (requests : List EdgeRequest) (node : Nat) :
    (ofRequests size requests).inDegree node
      = ((requests.filter fun request =>
          request.consumer = node ∧ request.producer ≠ node).map
            EdgeRequest.producer).toFinset.card := by
  have hinj : ∀ first second : Nat × Nat, decide (first.2 = node) = true →
      decide (second.2 = node) = true → first.1 = second.1 → first = second := by
    intro first second hfirst hsecond hsame
    exact Prod.ext hsame ((of_decide_eq_true hfirst).trans (of_decide_eq_true hsecond).symm)
  rw [inDegree_eq, pairs_ofRequests, List.countP_eq_length_filter,
    ← List.length_map Prod.fst, askedPairs, map_filter_eraseDups _ _ _ hinj,
    List.filter_map, List.map_map, List.filter_filter, ← card_toFinset]
  refine congrArg (fun asked => (List.map _ asked).toFinset.card) (List.filter_congr ?_)
  intro request _
  rw [Bool.eq_iff_iff]
  simp only [Function.comp_apply, Bool.and_eq_true, decide_eq_true_eq]
  refine and_congr_right ?_
  rintro rfl
  exact Iff.rfl

end DependencyGraph

/-- What is there after some requests. The nodes that follow a node are the others
    that were asked to, in order of the first request for each. There is one edge
    for each pair of two nodes that was asked for, in order of the first request,
    and its names are the ones given for the pair, in order. The in-degree of a node
    is the number of the others that were asked to come before it. If successors and
    in-degrees are kept beside the edges, every request can be entered, all three
    say this afterwards, and counting down by what is kept leads to the order of the
    graph, or to its report, and takes no counter below zero. -/
theorem requests_kept (size : Nat) (requests : List EdgeRequest)
    (hbelow : RequestsBelow size requests) :
    (∀ u, (DependencyGraph.ofRequests size requests).successors u
        = ((requests.filter fun request =>
            request.producer = u ∧ request.consumer ≠ u).map EdgeRequest.consumer).eraseDups)
      ∧ (DependencyGraph.ofRequests size requests).edges
        = ((requests.filter fun request => request.producer ≠ request.consumer).map
            EdgeRequest.ends).eraseDups.map (fun pair =>
          DependencyEdge.mk pair.1 pair.2
            ((requests.filter fun request => request.ends = pair).map
              EdgeRequest.resource).eraseDups)
      ∧ (∀ v, (DependencyGraph.ofRequests size requests).inDegree v
        = ((requests.filter fun request =>
            request.consumer = v ∧ request.producer ≠ v).map
              EdgeRequest.producer).toFinset.card)
      ∧ ∃ kept, KeptGraph.ofRequests? size requests = some kept
        ∧ kept.edges = (DependencyGraph.ofRequests size requests).edges
        ∧ (∀ u < size, kept.successors[u]?
          = some ((DependencyGraph.ofRequests size requests).successors u))
        ∧ (∀ v < size, kept.inDegrees[v]?
          = some ((DependencyGraph.ofRequests size requests).inDegree v))
        ∧ kept.countedOrder = some (DependencyGraph.ofRequests size requests).order := by
  have hsize := DependencyGraph.size_ofRequests size requests
  refine ⟨DependencyGraph.successors_ofRequests size requests,
    DependencyGraph.edges_ofRequests size requests,
    DependencyGraph.inDegree_ofRequests size requests, _,
    KeptGraph.ofRequests?_eq size requests hbelow, rfl, ?_, ?_, ?_⟩
  · intro u hu
    rw [KeptGraph.getElem?_successors, hsize, if_pos hu]
  · intro v hv
    rw [KeptGraph.getElem?_inDegrees, hsize, if_pos hv]
  · rw [KeptGraph.countedOrder_ofGraph]
    exact DependencyGraph.countedOrder_eq _
      (DependencyGraph.joined_ofRequests_lt size requests hbelow)

/-- Requests over three nodes. One pair is asked for three times, twice because of
    the same resource, and one request puts a node before itself. -/
def repeatedRequests : List EdgeRequest :=
  [⟨0, 1, "a"⟩, ⟨2, 1, "a"⟩, ⟨0, 1, "b"⟩, ⟨1, 1, "c"⟩, ⟨0, 2, "b"⟩, ⟨0, 1, "a"⟩]

/-- The pair has one edge with both names and counts once, and the counter of node 1
    is counted down to zero by its two producers. -/
theorem requests_kept_repeated :
    RequestsBelow 3 repeatedRequests
      ∧ (DependencyGraph.ofRequests 3 repeatedRequests).successors 0 = [1, 2]
      ∧ (DependencyGraph.ofRequests 3 repeatedRequests).edges
        = [⟨0, 1, ["a", "b"]⟩, ⟨2, 1, ["a"]⟩, ⟨0, 2, ["b"]⟩]
      ∧ (DependencyGraph.ofRequests 3 repeatedRequests).inDegree 1 = 2
      ∧ ∃ kept, KeptGraph.ofRequests? 3 repeatedRequests = some kept
        ∧ kept.successors[0]? = some [1, 2] ∧ kept.inDegrees[1]? = some 2
        ∧ kept.countedOrder = some (.ok [0, 2, 1]) := by
  have hbelow : RequestsBelow 3 repeatedRequests := by
    unfold RequestsBelow
    decide
  rcases requests_kept 3 repeatedRequests hbelow with
    ⟨hsuccessors, hedges, hinDegree, kept, hkept, _, hrows, hcounters, hcounted⟩
  have hfirst : (DependencyGraph.ofRequests 3 repeatedRequests).successors 0 = [1, 2] :=
    hsuccessors 0
  have hcount : (DependencyGraph.ofRequests 3 repeatedRequests).inDegree 1 = 2 := hinDegree 1
  refine ⟨hbelow, hfirst, hedges, hcount, kept, hkept, ?_, ?_, hcounted⟩
  · rw [hrows 0 (by decide), hfirst]
  · rw [hcounters 1 (by decide), hcount]

end FrameGraph
