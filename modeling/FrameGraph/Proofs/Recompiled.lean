import FrameGraph.Proofs.Tracking

/-!
# Compiling What Was Compiled

The order of a compilation is itself a list of passes that could have been
declared, and compiling it changes nothing: the order stays, and with it
everything that is computed from it.

This is not because the dependencies are the same. They are found anew, from
a declaration in another order, and the writers of a resource are chained in
the order of their declaration. What is true of them is that none points
backwards. A chain of writers runs forward in whatever list it is read off,
and a pass that only reads is behind all writers because the compilation put
it there. A sort that takes the smallest ready node then takes the nodes as
they come.

## Theorems

* `place_of_forward`: Nodes whose edges point forward are placed as they are.
* `order_of_forward`: They are their own order.
* `compile_of_forward`: Passes in a possible order compile to that order.
* `compile_forward`: In the order of a compilation dependencies point forward.
* `compile_again`: Compiling the order of a compilation gives it again.
-/

namespace FrameGraph

open Gpu

namespace DependencyGraph

/-- Nodes in ascending order are placed as they are, if edges point forward:
    the first of them never waits for one behind it. -/
theorem place_of_forward (graph : DependencyGraph)
    (hforward : ∀ u v, graph.Joined u v → u < v) (rounds : Nat) (left : List Nat)
    (hascending : left.Pairwise (· < ·)) (hlength : left.length ≤ rounds) :
    graph.place rounds left = (left, []) := by
  induction left generalizing rounds with
  | nil =>
      cases rounds with
      | zero => rfl
      | succ rounds => exact place_of_none graph rounds [] rfl
  | cons first rest ih =>
      rw [List.pairwise_cons] at hascending
      -- What the first waits for would have to be smaller, and all that is left is larger.
      have hready : graph.ready (first :: rest) first = true := by
        rw [ready_iff]
        intro u hjoined hu
        have hlt := hforward u first hjoined
        rcases List.mem_cons.mp hu with rfl | hrest
        · exact Nat.lt_irrefl _ hlt
        · have hgt := hascending.1 u hrest
          omega
      have hfind : (first :: rest).find? (graph.ready (first :: rest)) = some first :=
        List.find?_cons_of_pos hready
      cases rounds with
      | zero => exact absurd hlength (Nat.not_succ_le_zero _)
      | succ rounds =>
          rw [place_of_some graph rounds first _ hfind, List.erase_cons_head,
            ih rounds hascending.2 (Nat.le_of_succ_le_succ hlength)]

theorem order_of_forward (graph : DependencyGraph)
    (hforward : ∀ u v, graph.Joined u v → u < v) :
    graph.order = .ok (List.range graph.size) := by
  rw [order_eq_ok_iff]
  exact graph.place_of_forward hforward _ _ List.pairwise_lt_range (Nat.le_of_eq List.length_range)

end DependencyGraph

/-- Passes compile to the order of their declaration, if none depends on a
    later one. -/
theorem compile_of_forward (passes : List Pass) (hnodup : (passes.map Pass.index).Nodup)
    (hforward : ∀ u v, Depends passes u v → u < v) :
    compile passes = .ok (Compiled.ofOrder passes) := by
  have horder := (dependencies passes).order_of_forward fun u v hjoined =>
    hforward u v ((joined_dependencies passes u v).mp hjoined)
  refine (compile_eq_ok_iff passes _).mpr ⟨hnodup, _, horder, ?_⟩
  rw [size_dependencies, filterMap_range_getElem?]

/-- In the order of a compilation no pass depends on a later one. -/
theorem compile_forward (passes : List Pass) (compiled : Compiled)
    (h : compile passes = .ok compiled) (u v : Nat) (hdepends : Depends compiled.order u v) :
    u < v := by
  rcases hdepends with ⟨resource, hprecedes⟩
  rcases hprecedes with ⟨hlt, _⟩ | ⟨hwriter, hreader⟩
  · exact hlt
  · rcases hwriter with ⟨writer, hgetu, hwrites⟩
    rcases hreader with ⟨reader, hgetv, huses, hreads⟩
    rcases List.getElem?_eq_some_iff.mp hgetu with ⟨hu, rfl⟩
    rcases List.getElem?_eq_some_iff.mp hgetv with ⟨hv, rfl⟩
    -- Who writes was put before who reads, and a rank is a place in the order.
    have hmem := fun pass => (compile_order_perm passes compiled h).mem_iff (a := pass)
    have hnodup := compile_order_nodup passes compiled h
    have hbefore := compile_writer_before_reader passes compiled h _ _
      ((hmem _).mp (List.getElem_mem hu)) ((hmem _).mp (List.getElem_mem hv)) resource hwrites
      huses hreads
    rcases hbefore with ⟨i, j, hi, hj, hij⟩
    rw [compiled.rank?_getElem hnodup u hu, Option.some.injEq] at hi
    rw [compiled.rank?_getElem hnodup v hv, Option.some.injEq] at hj
    omega

/-- The order of a compilation compiles, and to the same compilation: order
    and ranks, batches, resources in the order of their registration, and
    the plan. -/
theorem compile_again (passes : List Pass) (compiled : Compiled)
    (h : compile passes = .ok compiled) : compile compiled.order = .ok compiled := by
  have hagain := compile_of_forward compiled.order (compile_order_nodup passes compiled h)
    (compile_forward passes compiled h)
  rwa [← compile_eq_ofOrder passes compiled h] at hagain

/-- Two passes draw to one image with a third between them, and a pass that
    is declared before them reads it. The third writes what the second of the
    two reads. -/
def declaredAround : List Pass := [
  ⟨7, "post", .compute, [Usage.plain .read .sampledImage "color"]⟩,
  ⟨4, "opaque", .graphics,
    [Usage.attachment .colorAttachment "color" LoadOp.clear StoreOp.store]⟩,
  ⟨2, "cull", .compute, [Usage.plain .write .storageBuffer "lights"]⟩,
  ⟨5, "blend", .graphics, [Usage.plain .read .storageBuffer "lights",
    Usage.attachment .colorAttachment "color" LoadOp.load StoreOp.store]⟩]

/-- The reader moves behind the writers, and stays there when the passes are
    declared in that order. -/
theorem compile_again_around :
    ∃ compiled, compile declaredAround = .ok compiled
      ∧ compiled.order.map Pass.index = [4, 2, 5, 7]
      ∧ compile compiled.order = .ok compiled := by
  have hcompile : compile declaredAround = .ok (Compiled.ofOrder
      [declaredAround[1], declaredAround[2], declaredAround[3], declaredAround[0]]) := by
    rfl
  exact ⟨_, hcompile, rfl, compile_again declaredAround _ hcompile⟩

end FrameGraph
