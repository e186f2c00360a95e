import Mathlib.Algebra.Order.Ring.Int
import Mathlib.Data.List.Forall2
import Mathlib.Data.List.Nodup
import Mathlib.Data.List.Perm.Subperm
import Mathlib.Data.List.Range
import Mathlib.Data.List.ReduceOption

/-!
# Cells that are used once

A table of cells is filled over and over; every filling gets the next number,
its ticket. An open cell may be closed, and closing it uses its ticket up. The
tickets used are then distinct, so no more cells were ever closed than filled.
-/

namespace Tickets

universe u

variable {Cell : Type u} (isOpen : Cell → Bool)

/-- The tickets of the cells that were open and are not any more. -/
def closed : List (Option ℕ) → List Cell → List Cell → List ℕ
  | ticket :: tickets, before :: olds, after :: news =>
      (if isOpen before && !isOpen after then ticket.toList else []) ++ closed tickets olds news
  | _, _, _ => []

/-- A cell stays as it is, or it is open and gets closed. -/
def Closes (before after : Cell) : Prop :=
  after = before ∨ isOpen before = true ∧ isOpen after = false

variable {isOpen} in
/-- A closed cell stays closed, so closings follow each other. -/
theorem Closes.trans {first second third : Cell} (left : Closes isOpen first second)
    (right : Closes isOpen second third) : Closes isOpen first third := by
  rcases left with rfl | ⟨opened, shut⟩
  · exact right
  · rcases right with rfl | ⟨stillOpen, _⟩
    · exact .inr ⟨opened, shut⟩
    · rw [shut] at stillOpen
      cases stillOpen

variable {isOpen} in
theorem closes_trans {first second third : List Cell}
    (left : List.Forall₂ (Closes isOpen) first second)
    (right : List.Forall₂ (Closes isOpen) second third) :
    List.Forall₂ (Closes isOpen) first third := by
  induction left generalizing third with
  | nil =>
      cases right
      exact .nil
  | cons closing _ ih =>
      cases right with
      | cons closed later => exact .cons (closing.trans closed) (ih later)

variable {isOpen} in
theorem closes_refl (cells : List Cell) : List.Forall₂ (Closes isOpen) cells cells :=
  List.forall₂_same.mpr fun _ _ => .inl rfl

/-- The tickets of a table: distinct, given out, and those of the open cells are unused. -/
structure Issued (tickets : List (Option ℕ)) (cells : List Cell) (issued : ℕ)
    (used : List ℕ) : Prop where
  distinct : tickets.reduceOption.Nodup
  given : ∀ ticket ∈ tickets.reduceOption, ticket < issued
  once : used.Nodup
  usedGiven : ∀ ticket ∈ used, ticket < issued
  unused : List.Forall₂ (fun ticket cell => isOpen cell = true → ∃ number, ticket = some number ∧
    number ∉ used) tickets cells

section Closed

variable {tickets : List (Option ℕ)} {before after : List Cell}

theorem closed_sublist (tickets : List (Option ℕ)) (before after : List Cell) :
    (closed isOpen tickets before after).Sublist tickets.reduceOption := by
  induction tickets generalizing before after with
  | nil => exact List.Sublist.refl _
  | cons ticket tickets ih =>
      cases before with
      | nil => exact List.nil_sublist _
      | cons old olds =>
          cases after with
          | nil => exact List.nil_sublist _
          | cons new news =>
              have rest := ih olds news
              dsimp only [closed]
              cases ticket with
              | none =>
                  rw [List.reduceOption_cons_of_none]
                  split <;> exact rest
              | some number =>
                  rw [List.reduceOption_cons_of_some]
                  split
                  · exact rest.cons_cons number
                  · exact rest.cons number

variable {isOpen}

/-- As many tickets are used up as cells are closed. -/
theorem length_closed
    (known : List.Forall₂ (fun ticket cell => isOpen cell = true → ∃ number : ℕ,
      ticket = some number) tickets before)
    (closes : List.Forall₂ (Closes isOpen) before after) :
    (closed isOpen tickets before after).length + after.countP isOpen = before.countP isOpen := by
  induction closes generalizing tickets with
  | nil =>
      cases known
      rfl
  | @cons old new olds news closing _ ih =>
      cases known with
      | @cons ticket _ tickets _ hasTicket known =>
          have rest := ih known
          dsimp only [closed]
          rcases closing with rfl | ⟨open_, shut⟩
          · cases still : isOpen new
            · simpa [still] using rest
            · simp only [still, Bool.not_true, Bool.and_false, Bool.false_eq_true, if_false,
                List.nil_append, List.countP_cons_of_pos]
              omega
          · rcases hasTicket open_ with ⟨number, rfl⟩
            simp only [open_, shut, Bool.not_false, Bool.and_self, if_true, Option.toList_some,
              List.singleton_append, List.length_cons, Bool.false_eq_true, not_false_iff,
              List.countP_cons_of_pos, List.countP_cons_of_neg]
            omega

/-- A used ticket is that of a cell that was open, so it was not used before. -/
theorem closed_unused {used : List ℕ}
    (unused : List.Forall₂ (fun ticket cell => isOpen cell = true → ∃ number, ticket = some number ∧
      number ∉ used) tickets before) {number : ℕ}
    (member : number ∈ closed isOpen tickets before after) : number ∉ used := by
  induction unused generalizing after with
  | nil =>
      cases after <;> cases member
  | @cons ticket old tickets olds hasTicket _ ih =>
      cases after with
      | nil => cases member
      | cons new news =>
          dsimp only [closed] at member
          rcases List.mem_append.mp member with here | later
          · split at here
            · rename_i closing
              rcases hasTicket (Bool.and_eq_true_iff.mp closing).1 with ⟨held, rfl, free⟩
              rcases List.mem_singleton.mp here with rfl
              exact free
            · cases here
          · exact ih later

/-- Numbers that are no tickets of the table can be used as well. -/
theorem unused_append {used extra : List ℕ}
    (unused : List.Forall₂ (fun ticket cell => isOpen cell = true → ∃ number, ticket = some number ∧
      number ∉ used) tickets before)
    (apart : ∀ number ∈ extra, number ∉ tickets.reduceOption) :
    List.Forall₂ (fun ticket cell => isOpen cell = true → ∃ number, ticket = some number ∧
      number ∉ used ++ extra) tickets before := by
  refine (List.forall₂_iff_get.mpr ⟨unused.length_eq, fun slot inside inside' opened => ?_⟩)
  rcases (List.forall₂_iff_get.mp unused).2 slot inside inside' opened with ⟨number, held, free⟩
  refine ⟨number, held, fun member => ?_⟩
  rcases List.mem_append.mp member with old | new
  · exact free old
  · refine apart number new (List.reduceOption_mem_iff.mpr ?_)
    exact held ▸ List.get_mem tickets ⟨slot, inside⟩

/-- The cells that are still open keep their tickets unused. -/
theorem unused_closed {used : List ℕ} (distinct : tickets.reduceOption.Nodup)
    (unused : List.Forall₂ (fun ticket cell => isOpen cell = true → ∃ number, ticket = some number ∧
      number ∉ used) tickets before)
    (closes : List.Forall₂ (Closes isOpen) before after) :
    List.Forall₂ (fun ticket cell => isOpen cell = true → ∃ number, ticket = some number ∧
      number ∉ used ++ closed isOpen tickets before after) tickets after := by
  induction closes generalizing tickets used with
  | nil =>
      cases unused
      exact .nil
  | @cons old new olds news closing closes ih =>
      cases unused with
      | @cons ticket _ tickets _ hasTicket unused =>
          have restDistinct : tickets.reduceOption.Nodup := by
            cases ticket with
            | none => exact List.reduceOption_cons_of_none tickets ▸ distinct
            | some number =>
                rw [List.reduceOption_cons_of_some] at distinct
                exact (List.nodup_cons.mp distinct).2
          refine .cons ?_ ?_
          · intro stillOpen
            rcases closing with rfl | ⟨_, shut⟩
            · rcases hasTicket stillOpen with ⟨number, rfl, free⟩
              refine ⟨number, rfl, ?_⟩
              rw [List.reduceOption_cons_of_some] at distinct
              have elsewhere := (List.nodup_cons.mp distinct).1
              dsimp only [closed]
              rw [stillOpen, Bool.not_true, Bool.and_false, if_neg Bool.false_ne_true,
                List.nil_append, List.mem_append]
              rintro (old | later)
              · exact free old
              · exact elsewhere ((closed_sublist isOpen tickets olds news).subset later)
            · rw [shut] at stillOpen
              cases stillOpen
          · -- the ticket used up at the head is no ticket of the rest
            have apart : ∀ number ∈ (if isOpen old && !isOpen new then ticket.toList else []),
                number ∉ tickets.reduceOption := by
              intro number member
              split at member
              · cases ticket with
                | none => cases member
                | some head =>
                    rcases List.mem_singleton.mp member with rfl
                    rw [List.reduceOption_cons_of_some] at distinct
                    exact (List.nodup_cons.mp distinct).1
              · cases member
            have later := @ih _ _ restDistinct (unused_append unused apart)
            dsimp only [closed]
            simpa only [List.append_assoc] using later

end Closed

/-! ### What keeps the tickets -/

theorem nodup_set {tickets : List (Option ℕ)} (distinct : tickets.reduceOption.Nodup)
    {number : ℕ} (fresh : number ∉ tickets.reduceOption) (slot : ℕ) :
    (tickets.set slot (some number)).reduceOption.Nodup := by
  induction tickets generalizing slot with
  | nil => exact distinct
  | cons ticket tickets ih =>
      have parts : tickets.reduceOption.Nodup ∧ number ∉ tickets.reduceOption ∧
          ∀ held, ticket = some held → held ≠ number ∧ held ∉ tickets.reduceOption := by
        cases ticket with
        | none =>
            rw [List.reduceOption_cons_of_none] at distinct fresh
            exact ⟨distinct, fresh, nofun⟩
        | some held =>
            rw [List.reduceOption_cons_of_some] at distinct fresh
            rcases List.nodup_cons.mp distinct with ⟨elsewhere, rest⟩
            rcases not_or.mp (List.mem_cons.not.mp fresh) with ⟨differs, free⟩
            refine ⟨rest, free, ?_⟩
            rintro _ ⟨⟩
            exact ⟨Ne.symm differs, elsewhere⟩
      rcases parts with ⟨rest, free, apart⟩
      cases slot with
      | zero =>
          rw [List.set_cons_zero, List.reduceOption_cons_of_some]
          exact List.nodup_cons.mpr ⟨free, rest⟩
      | succ slot =>
          rw [List.set_cons_succ]
          cases ticket with
          | none =>
              rw [List.reduceOption_cons_of_none]
              exact ih rest free slot
          | some held =>
              rw [List.reduceOption_cons_of_some]
              refine List.nodup_cons.mpr ⟨fun member => ?_, ih rest free slot⟩
              rcases List.mem_or_eq_of_mem_set (List.reduceOption_mem_iff.mp member) with old | new
              · exact (apart held rfl).2 (List.reduceOption_mem_iff.mpr old)
              · exact (apart held rfl).1 (Option.some.inj new)

namespace Issued

variable {isOpen} {tickets : List (Option ℕ)} {cells after : List Cell} {issued : ℕ}
  {used : List ℕ}

/-- An empty table, all of whose cells are shut. -/
theorem start (size : ℕ) {cell : Cell} (shut : isOpen cell = false) :
    Issued isOpen (List.replicate size none) (List.replicate size cell) 0 [] := by
  refine ⟨?_, ?_, List.nodup_nil, nofun, ?_⟩
  · rw [List.reduceOption_replicate_none]
    exact List.nodup_nil
  · rw [List.reduceOption_replicate_none]
    exact nofun
  · induction size with
    | zero => exact .nil
    | succ size ih =>
        refine .cons (fun opened => ?_) ih
        rw [shut] at opened
        cases opened

/-- A cell is filled and gets the next ticket. -/
theorem issue (issues : Issued isOpen tickets cells issued used) (slot : ℕ) (cell : Cell) :
    Issued isOpen (tickets.set slot (some issued)) (cells.set slot cell) (issued + 1) used := by
  have fresh : issued ∉ tickets.reduceOption := fun member =>
    Nat.lt_irrefl _ (issues.given issued member)
  refine ⟨nodup_set issues.distinct fresh slot, ?_, issues.once,
    fun ticket member => Nat.lt_succ_of_lt (issues.usedGiven ticket member), ?_⟩
  · intro ticket member
    rcases List.mem_or_eq_of_mem_set (List.reduceOption_mem_iff.mp member) with old | new
    · exact Nat.lt_succ_of_lt (issues.given ticket (List.reduceOption_mem_iff.mpr old))
    · rcases Option.some.inj new with rfl
      exact Nat.lt_succ_self _
  · have unused := List.forall₂_iff_get.mp issues.unused
    refine List.forall₂_iff_get.mpr ⟨?_, fun index inside inside' opened => ?_⟩
    · rw [List.length_set, List.length_set, unused.1]
    · rw [List.length_set] at inside inside'
      simp only [List.get_eq_getElem, List.getElem_set] at opened ⊢
      split
      · refine ⟨issued, rfl, fun member => ?_⟩
        exact Nat.lt_irrefl _ (issues.usedGiven issued member)
      · rename_i other
        rw [if_neg other] at opened
        exact unused.2 index inside inside' opened

/-- Cells are closed and their tickets used up. -/
theorem close (issues : Issued isOpen tickets cells issued used)
    (closes : List.Forall₂ (Closes isOpen) cells after) :
    Issued isOpen tickets after issued (used ++ closed isOpen tickets cells after) := by
  have sublist := closed_sublist isOpen tickets cells after
  refine ⟨issues.distinct, issues.given, ?_, ?_, unused_closed issues.distinct issues.unused closes⟩
  · refine List.nodup_append.mpr ⟨issues.once, sublist.nodup issues.distinct, ?_⟩
    intro old member new closing same
    exact closed_unused issues.unused closing (same ▸ member)
  · intro ticket member
    rcases List.mem_append.mp member with old | new
    · exact issues.usedGiven ticket old
    · exact issues.given ticket (sublist.subset new)

/-- As many tickets are used up as cells are closed. -/
theorem length_close (issues : Issued isOpen tickets cells issued used)
    (closes : List.Forall₂ (Closes isOpen) cells after) :
    (closed isOpen tickets cells after).length + after.countP isOpen = cells.countP isOpen := by
  refine length_closed (issues.unused.imp fun ticket cell unused opened => ?_) closes
  rcases unused opened with ⟨number, held, _⟩
  exact ⟨number, held⟩

end Issued

end Tickets
