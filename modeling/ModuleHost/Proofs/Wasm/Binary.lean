import ModuleHost.Proofs.Except
import ModuleHost.Proofs.Value.Bytes
import ModuleHost.Proofs.Wasm.Sized
import ModuleHost.Wasm.Binary.Module

namespace ModuleHost.Wasm.Binary

variable {α β : Type} {r : Reader α} {f : α → Reader β} {P Q : α → Prop} {R : β → Prop}

/-- Whatever bytes it reads, a reader that succeeds makes something with a property. -/
def Yields (r : Reader α) (P : α → Prop) : Prop :=
  ∀ bs x rest, r bs = .ok (x, rest) → P x

theorem yields_pure {x : α} (holds : P x) : Yields (pure x) P := by
  intro bs y rest reads
  cases reads
  exact holds

theorem yields_refuse (fault : ModuleFault) : Yields (refuse fault) P := by
  intro bs x rest reads
  cases reads

theorem yields_any (r : Reader α) : Yields r fun _ => True :=
  fun _ _ _ _ => trivial

theorem Yields.bind (first : Yields r Q) (next : ∀ x, Q x → Yields (f x) R) :
    Yields (r >>= f) R := by
  intro bs y rest reads
  obtain ⟨⟨x, between⟩, here, there⟩ := bind_eq_ok.mp reads
  exact next x (first bs x between here) between y rest there

theorem yields_bind (next : ∀ x, Yields (f x) R) : Yields (r >>= f) R :=
  (yields_any r).bind fun x _ => next x

theorem yields_ite {c : Prop} [Decidable c] {yes no : Reader α} (then_ : c → Yields yes P)
    (else_ : ¬ c → Yields no P) : Yields (if c then yes else no) P := by
  split
  · exact then_ ‹_›
  · exact else_ ‹_›

theorem Yields.replicate (item : Yields r P) (count : Nat) :
    Yields (replicate r count) fun xs => ∀ x ∈ xs, P x := by
  induction count with
  | zero => exact yields_pure (List.forall_mem_nil _)
  | succ count ih =>
    refine item.bind fun x here => ih.bind fun xs there => yields_pure ?_
    exact List.forall_mem_cons.mpr ⟨here, there⟩

theorem Yields.vector (item : Yields r P) : Yields (vector r) fun xs => ∀ x ∈ xs, P x := by
  refine yields_bind fun count => yields_bind fun bs => ?_
  exact yields_ite (fun _ => yields_refuse _) fun _ => item.replicate count

theorem yields_unsignedGroups {groups bits : Nat} (few : 7 * groups ≤ bits + 6) :
    Yields (unsignedGroups groups bits) (· < 2 ^ bits) := by
  induction groups generalizing bits with
  | zero => exact yields_refuse _
  | succ groups ih =>
    refine yields_bind fun b => yields_ite (fun last => ?_) fun more => ?_
    · have small : b.toNat < 128 := last
      refine yields_ite (fun _ => yields_refuse _) fun fits => yields_pure ?_
      by_cases narrow : bits < 7
      · exact Nat.lt_of_not_le fun large => fits ⟨narrow, large⟩
      · have room : 2 ^ 7 ≤ 2 ^ bits := Nat.pow_le_pow_right (by decide) (Nat.le_of_not_lt narrow)
        exact Nat.lt_of_lt_of_le small room
    · have byte := b.toNat_lt
      by_cases narrow : bits < 7
      · obtain rfl : groups = 0 := by omega
        exact (yields_refuse (P := fun _ => False) _).bind fun _ never => never.elim
      · refine (ih (by omega)).bind fun high below => yields_pure ?_
        have whole : 2 ^ bits = 128 * 2 ^ (bits - 7) := by
          rw [show (128 : Nat) = 2 ^ 7 from rfl, ← pow_add]
          congr 1
          omega
        rw [whole]
        omega

theorem yields_u32 : Yields u32 ValType.i32.Holds :=
  yields_unsignedGroups (by decide)

theorem yields_take (count : Nat) : Yields (take count) (·.length = count) := by
  intro bs x rest reads
  simp only [take] at reads
  split at reads <;> cases reads
  assumption

section

variable {t : ValType} {bytes : Nat} (room : ∀ n, n < 256 ^ bytes → t.Holds n)

include room

theorem yields_constant : Yields (constant t bytes) Op.Sized := by
  refine (yields_take bytes).bind fun taken count => yields_pure (room _ ?_)
  have fits := ofLittleEndian_lt taken
  rwa [count] at fits

theorem yields_load : Yields (load t bytes false) Op.Sized :=
  yields_bind fun _ => yields_pure room

end

theorem yields_load_signed {w : IntWidth} {bytes : Nat} (narrow : 8 * bytes ≤ w.bits) :
    Yields (load w.type bytes true) Op.Sized := by
  refine yields_bind fun _ => yields_pure fun n _ => IntWidth.holds_iff.mpr ?_
  have fits := signExtend_lt narrow n
  cases w <;> exact fits

theorem yields_typedSelect : Yields typedSelect Op.Sized := by
  refine yields_bind fun types => ?_
  split
  · exact yields_pure trivial
  · exact yields_refuse _

theorem yields_miscOp : Yields miscOp Op.Sized := by
  refine yields_bind fun n => ?_
  split
  all_goals first
    | exact yields_pure trivial
    | exact yields_bind fun _ => yields_pure trivial
    | exact yields_bind fun _ => yields_bind fun _ => yields_pure trivial
    | exact yields_refuse _

theorem yields_laneAccess {make : Nat → MemArg → MemoryOp}
    (sized : ∀ lane arg, (Op.memory (make lane arg)).Sized) :
    Yields (laneAccess make) Op.Sized :=
  yields_bind fun arg => yields_bind fun b => yields_pure (sized b.toNat arg)

theorem yields_vectorOp : Yields vectorOp Op.Sized := by
  refine yields_bind fun n => ?_
  split
  · exact yields_load fun _ fits => fits
  · exact yields_bind fun _ => yields_pure trivial
  · exact yields_constant fun _ fits => fits
  · exact yields_bind fun _ => yields_pure trivial
  · exact yields_bind fun _ => yields_pure trivial
  · exact yields_bind fun _ => yields_pure trivial
  · split
    · exact yields_bind fun _ => yields_pure trivial
    · exact yields_bind fun _ => yields_pure trivial
    · exact yields_laneAccess fun _ _ => trivial
    · exact yields_laneAccess fun _ _ => trivial
    · exact yields_pure trivial
    · exact yields_refuse _

def isFixed : Op → Bool
  | .const .. | .memory _ => false
  | _ => true

theorem sized_of_isFixed {o : Op} (fixed : isFixed o = true) : o.Sized := by
  cases o with
  | const | memory => cases fixed
  | _ => trivial

theorem sized_of_plainOp {b : UInt8} {o : Op} (plain : plainOp b = some o) : o.Sized := by
  have table : (List.range 256).all fun n => (plainOp (UInt8.ofNat n)).all isFixed := by
    decide +kernel
  have fixed := List.all_eq_true.mp table b.toNat (List.mem_range.mpr b.toNat_lt)
  rw [UInt8.ofNat_toNat, plain] at fixed
  exact sized_of_isFixed fixed

theorem yields_operator (b : UInt8) : Yields (operator b) Op.Sized := by
  unfold operator
  split
  all_goals first
    | exact yields_bind fun _ => yields_pure trivial
    | exact yields_bind fun n => yields_pure (IntWidth.ofSigned_lt .w32 n)
    | exact yields_bind fun n => yields_pure (IntWidth.ofSigned_lt .w64 n)
    | exact yields_constant fun _ fits => Nat.lt_of_lt_of_le fits (by decide)
    | exact yields_load fun _ fits => Nat.lt_of_lt_of_le fits (by decide)
    | exact yields_load_signed (w := .w32) (by decide)
    | exact yields_load_signed (w := .w64) (by decide)
    | exact yields_typedSelect
    | exact yields_miscOp
    | exact yields_vectorOp
    | skip
  -- What is left has no reader of its own.
  split
  · exact yields_pure (sized_of_plainOp ‹_›)
  · exact yields_refuse _

theorem yields_sequence (steps : Nat) {read : List Instr} (sized : SizedCode read) :
    Yields (sequence steps read) fun code => SizedCode code.1 := by
  -- What is read inside of a block is sized by the same induction, since it takes a step less.
  induction steps generalizing read with
  | zero => exact yields_refuse _
  | succ steps ih =>
    have more {i : Instr} (here : i.Sized) : Yields (sequence steps (i :: read)) fun code =>
        SizedCode code.1 :=
      ih ⟨here, sized⟩
    have inside : Yields (sequence steps []) fun code => SizedCode code.1 := ih trivial
    have ends (terminator : Terminator) : Yields (pure (read.reverse, terminator)) fun code =>
        SizedCode code.1 :=
      yields_pure (sizedCode_iff.mpr fun i member =>
        sizedCode_iff.mp sized i (List.mem_reverse.mp member))
    refine yields_bind fun b => ?_
    split
    · exact ends _
    · exact ends _
    · exact more trivial
    · refine yields_bind fun type => inside.bind fun code body => ?_
      split
      · exact more body
      · exact yields_refuse _
    · refine yields_bind fun type => inside.bind fun code body => ?_
      split
      · exact more body
      · exact yields_refuse _
    · refine yields_bind fun type => inside.bind fun code yes => ?_
      split
      · exact more ⟨yes, trivial⟩
      · refine inside.bind fun code no => ?_
        split
        · exact more ⟨yes, no⟩
        · exact yields_refuse _
    · exact yields_bind fun label => more trivial
    · exact yields_bind fun label => more trivial
    · exact yields_bind fun labels => yields_bind fun otherwise => more trivial
    · exact more trivial
    · exact yields_bind fun f => more trivial
    · exact yields_bind fun type => yields_bind fun table => more trivial
    · exact yields_bind fun f => more trivial
    · exact yields_bind fun type => yields_bind fun table => more trivial
    · exact (yields_operator b).bind fun o sized => more sized

theorem yields_expression : Yields expression SizedCode := by
  have start : SizedCode [] := trivial
  refine yields_bind fun bs => (yields_sequence (bs.length + 1) start).bind fun code sized => ?_
  split
  · exact yields_pure sized
  · exact yields_refuse _

theorem yields_constOps (steps : Nat) : Yields (constOps steps) fun e => ∀ o ∈ e, o.Sized := by
  induction steps with
  | zero => exact yields_refuse _
  | succ steps ih =>
    refine yields_bind fun b => ?_
    split
    · exact yields_pure (List.forall_mem_nil _)
    · refine (yields_operator b).bind fun o here => ih.bind fun e there => yields_pure ?_
      exact List.forall_mem_cons.mpr ⟨here, there⟩

theorem yields_limits : Yields limits fun l => ∀ max ∈ l.max, ValType.i32.Holds max := by
  refine yields_bind fun b => ?_
  split
  · exact yields_bind fun min => yields_pure (fun _ none => by cases none)
  · refine yields_bind fun min => yields_u32.bind fun max fits => yields_pure fun _ same => ?_
    cases same
    exact fits
  · exact yields_refuse _

theorem yields_tableType : Yields tableType TableType.Sized := by
  have element : Yields refType fun t => t.isReference = true :=
    yields_bind fun t => yields_ite (fun reference => yields_pure reference)
      fun _ => yields_refuse _
  exact element.bind fun t reference => yields_limits.bind fun l max => yields_pure ⟨reference, max⟩

theorem yields_constExpr : Yields constExpr fun e => ∀ o ∈ e, o.Sized :=
  yields_bind fun bs => yields_constOps (bs.length + 1)

theorem yields_globalEntry : Yields globalEntry fun g => ∀ o ∈ g.init, o.Sized :=
  yields_bind fun _ => yields_constExpr.bind fun _ sized => yields_pure sized

theorem yields_codeEntry : Yields codeEntry fun code => SizedCode code.2 := by
  refine yields_bind fun size => yields_bind fun bytes => ?_
  have body : Yields (do
      let locals ← vector localRun
      if maxLocals < locals.foldl (fun acc run => acc + run.1) 0 then refuse (.tooMany "locals")
      else return (locals, ← expression)) fun code => SizedCode code.2 :=
    yields_bind fun locals => yields_ite (fun _ => yields_refuse _) fun _ =>
      yields_expression.bind fun _ sized => yields_pure sized
  dsimp only
  split
  · exact yields_pure (body _ _ _ ‹_›)
  · exact yields_refuse _
  · exact yields_refuse _

structure Draft.Sized (d : Draft) : Prop where
  code : ∀ code ∈ d.code, SizedCode code.2
  globals : ∀ g ∈ d.globals, ∀ o ∈ g.init, o.Sized
  tables : ∀ t ∈ d.tables, t.Sized

theorem yields_sectionBody {d : Draft} (sized : d.Sized) (id : UInt8) :
    Yields (sectionBody d id) Draft.Sized := by
  unfold sectionBody
  split
  case h_4 =>
    exact yields_tableType.vector.bind fun _ tables =>
      yields_pure ⟨sized.code, sized.globals, tables⟩
  case h_6 =>
    exact yields_globalEntry.vector.bind fun _ globals =>
      yields_pure ⟨sized.code, globals, sized.tables⟩
  case h_10 =>
    exact yields_codeEntry.vector.bind fun _ code =>
      yields_pure ⟨code, sized.globals, sized.tables⟩
  all_goals first
    | exact yields_bind fun _ => yields_pure ⟨sized.code, sized.globals, sized.tables⟩
    | exact yields_refuse _

theorem sized_of_sections {steps place : Nat} {d d' : Draft} {bytes : List UInt8}
    (sized : d.Sized) (reads : sections steps place d bytes = .ok d') : d'.Sized := by
  induction steps generalizing place d bytes with
  | zero =>
    cases bytes with
    | nil =>
      cases reads
      exact sized
    | cons => cases reads
  | succ steps ih =>
    cases bytes with
    | nil =>
      cases reads
      exact sized
    | cons id bytes =>
      simp only [sections, bind_eq_ok] at reads
      obtain ⟨⟨size, bytes⟩, -, ⟨body, bytes⟩, -, reads⟩ := reads
      dsimp only at reads
      split at reads
      · obtain ⟨_, -, reads⟩ := bind_eq_ok.mp reads
        exact ih sized reads
      · split at reads
        · cases reads
        · split at reads
          · cases reads
          · obtain ⟨⟨d, left⟩, section_, reads⟩ := bind_eq_ok.mp reads
            have here := yields_sectionBody sized id _ _ _ section_
            split at reads
            · rename_i same
              cases same
              exact ih here reads
            · cases reads

theorem sized_of_toModule {d : Draft} {m : Module} (sized : d.Sized)
    (makes : d.toModule = .ok m) : m.Sized := by
  unfold Draft.toModule at makes
  repeat' split at makes
  all_goals cases makes
  refine ⟨fun func member => ?_, fun g member => ?_, fun t member => ?_⟩
  · have zipped := List.mem_toArray.mp member
    rw [← List.map_uncurry_zip_eq_zipWith] at zipped
    obtain ⟨⟨type, code⟩, pair, rfl⟩ := List.mem_map.mp zipped
    exact sized.code code (List.of_mem_zip pair).2
  · exact sized.globals g (List.mem_toArray.mp member)
  · exact sized.tables t (List.mem_toArray.mp member)

theorem sized_of_decode {bytes : List UInt8} {m : Module} (reads : decode bytes = .ok m) :
    m.Sized := by
  unfold decode at reads
  dsimp only at reads
  split at reads
  · split at reads
    · obtain ⟨d, reads, makes⟩ := bind_eq_ok.mp reads
      have empty : Draft.Sized {} :=
        ⟨List.forall_mem_nil _, List.forall_mem_nil _, List.forall_mem_nil _⟩
      exact sized_of_toModule (sized_of_sections empty reads) makes
    · cases reads
  · cases reads

end ModuleHost.Wasm.Binary
