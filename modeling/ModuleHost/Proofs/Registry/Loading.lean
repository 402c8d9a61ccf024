import ModuleHost.Proofs.Boundary.Unusable
import ModuleHost.Proofs.Files
import ModuleHost.Proofs.Registry.Creation
import ModuleHost.Proofs.Utf8

namespace ModuleHost

variable {engine : Engine} {bytes : List UInt8} {text : String} {m : GuestModule}

namespace Registry

/-- What a registry answers is the same for two sources: when either is created at one point of a
run, and when both are, by registries with the same limits or one after the other by the same. If
guests can ask the world outside, it has to be one and the same world that they ask. -/
structure Interchangeable (engine : Engine) (source source' : Source) : Prop where
  runs : ∀ (r : Registry) fuel ops, r.engine = engine →
    (r.trace (source.op fuel :: ops)).map Prod.snd =
        (r.trace (source'.op fuel :: ops)).map Prod.snd ∧
      r.after (source.op fuel :: ops) = r.after (source'.op fuel :: ops)
  instances : ∀ (r₁ r₂ : Registry) world fuel h₁ h₂ r₁' r₂', r₁.engine = engine →
    r₂.engine = engine.withOutside world →
    (engine.settings.wasi = true → world = engine.runtime.outside) → r₁.limits = r₂.limits →
    source.create r₁ fuel = .ok (h₁, r₁') → source'.create r₂ fuel = .ok (h₂, r₂') →
    ∀ ops, (r₁'.trace (opsOn h₁ ops)).map Prod.snd = (r₂'.trace (opsOn h₂ ops)).map Prod.snd

variable {source source' : Source} {r r' : Registry} {h h' : Handle} {fuel : Option UInt64}

theorem step_source_congr (same : source.create r fuel = source'.create r fuel) :
    r.step (source.op fuel) = r.step (source'.op fuel) := by
  cases created : source.create r fuel with
  | ok result => rw [step_source_of_ok created, step_source_of_ok (same.symm.trans created)]
  | error e => rw [step_source_of_error created, step_source_of_error (same.symm.trans created)]

theorem load_withOutside (engine : Engine) (world : Wasi.Outside) (source : Source) :
    source.load (engine.withOutside world) = source.load engine := by
  cases source <;> rfl

theorem same_traces {r₁ r₂ : Registry} {h₁ h₂ : Handle} {world : Wasi.Outside}
    (engines : r₂.engine = r₁.engine.withOutside world)
    (asked : r₁.engine.settings.wasi = true → world = r₁.engine.runtime.outside)
    (limits : r₁.limits = r₂.limits) (same : source.load r₁.engine = source'.load r₁.engine)
    (created : source.create r₁ fuel = .ok (h₁, r))
    (created' : source'.create r₂ fuel = .ok (h₂, r')) :
    ∃ i i', r.get? h₁ = some i ∧ r'.get? h₂ = some i' ∧ ∀ ops, i'.trace ops = i.trace ops := by
  obtain ⟨m, i, pool, loads, made, rfl, rfl⟩ := create_eq_ok.mp created
  obtain ⟨m', i', pool', loads', made', rfl, rfl⟩ := create_eq_ok.mp created'
  rw [engines, load_withOutside] at loads'
  rw [engines, ← limits] at made'
  obtain rfl := Except.ok.inj (loads.symm.trans (same.trans loads'))
  refine ⟨i, i', get?_enroll.trans (if_pos rfl), get?_enroll.trans (if_pos rfl), ?_⟩
  -- Each takes a slot of its own registry, which the instance does not show.
  have again := Instance.creationLaws.anySlot made (Instance.creationLaws.takesSlot made')
  cases wasi : r₁.engine.settings.wasi with
  | true =>
    rw [asked wasi] at made'
    obtain ⟨rfl, -⟩ := Prod.mk.inj (Except.ok.inj (again.symm.trans made'))
    exact fun ops => rfl
  | false =>
    rw [Instance.creationLaws.closed wasi, again] at made'
    obtain ⟨rfl, -⟩ := Prod.mk.inj (Except.ok.inj made')
    exact fun ops => Instance.trace_withOutside (Instance.noHost_of_create wasi made).2 ops

theorem interchangeable_of_load (same : source.load engine = source'.load engine) :
    Interchangeable engine source source' where
  runs := by
    rintro r fuel ops rfl
    have creations : source.create r fuel = source'.create r fuel := by
      rw [create_source, create_source, same]
    have steps := step_source_congr creations
    constructor
    · show (r.step (source.op fuel)).1 :: ((r.step (source.op fuel)).2.trace ops).map Prod.snd =
        (r.step (source'.op fuel)).1 :: ((r.step (source'.op fuel)).2.trace ops).map Prod.snd
      rw [steps]
    · show (r.step (source.op fuel)).2.after ops = (r.step (source'.op fuel)).2.after ops
      rw [steps]
  instances := by
    rintro r₁ r₂ world fuel h₁ h₂ r₁' r₂' rfl engines asked limits created created' ops
    obtain ⟨i, i', live, live', alike⟩ :=
      same_traces engines asked limits same created created'
    rw [(run_opsOn live ops).1, (run_opsOn live' ops).1, alike]

end Registry

namespace GuestModule

theorem assemble_of_headed (engine : Engine) (headed : Headed (Utf8.encode text)) :
    engine.runtime.assemble text = .ok (Utf8.encode text) :=
  engine.runtime.assemble_headed text (List.isPrefixOf_iff_prefix.mpr headed.starts)

theorem ofText_of_ofBytes (accepts : ofBytes engine (Utf8.encode text) = .ok m) :
    ofText engine text = .ok m := by
  obtain ⟨headed, accepts, named⟩ := ofBytes_eq_ok.mp accepts
  exact ofText_eq_ok.mpr ⟨⟨_, assemble_of_headed engine headed, accepts⟩, named⟩

theorem ofBytes_of_not_headed (other : ¬ Headed bytes) :
    ∃ reason, ofBytes engine bytes = .error (.invalidModule reason) := by
  cases loads : ofBytes engine bytes with
  | ok m => exact absurd (ofBytes_eq_ok.mp loads).1 other
  | error e =>
    obtain ⟨reason, rfl⟩ := ofBytes_eq_error loads
    exact ⟨reason, rfl⟩

end GuestModule

open GuestModule
open Files (HasExtension)

/-- Bytes are no module, whoever is asked for an instance of them. -/
structure Refused (engine : Engine) (bytes : List UInt8) (reason : String) : Prop where
  load : ofBytes engine bytes = .error (.invalidModule reason)
  create : ∀ (r : Registry) fuel, r.engine = engine →
    r.createOf bytes fuel = .error (.invalidModule reason)
  outside : ∀ (p : Boundary.Embedding) r t fuel, p.registry = .ok r → r.engine = engine →
    p.createInstance t (some bytes) fuel = (0, p.fail t (.invalidModule reason))
  noHandle : ∀ (p : Boundary.Embedding) t fuel, (∀ r, p.registry = .ok r → r.engine = engine) →
    (p.createInstance t (some bytes) fuel).1 = 0

theorem refused_of_ofBytes {reason : String}
    (fails : ofBytes engine bytes = .error (.invalidModule reason)) :
    Refused engine bytes reason := by
  have create (r : Registry) (fuel : Option UInt64) (same : r.engine = engine) :
      r.createOf bytes fuel = .error (.invalidModule reason) := by
    rw [Registry.createOf, same, fails]
    rfl
  have outside (p : Boundary.Embedding) (r : Registry) (t : Boundary.Thread) (fuel : UInt64)
      (stands : p.registry = .ok r) (same : r.engine = engine) :
      p.createInstance t (some bytes) fuel = (0, p.fail t (.invalidModule reason)) := by
    apply Boundary.Embedding.createInstance_of_fails
    exact (Boundary.Embedding.create_of_registry stands).trans (create r _ same)
  refine ⟨fails, create, outside, ?_⟩
  intro p t fuel same
  cases stands : p.registry with
  | ok r => rw [outside p r t fuel stands (same r stands)]
  | error e => rw [Boundary.Embedding.createInstance_of_error stands]

structure LoadsAgree (engine : Engine) (bytes : List UInt8) : Prop where
  textFile : ∀ read path text, read path = .ok bytes → HasExtension path "wat" →
    Utf8.encode text = bytes → ofFile engine read path = ofText engine text
  malformedFile : ∀ read path, read path = .ok bytes → HasExtension path "wat" →
    (∀ text, Utf8.encode text ≠ bytes) →
    ∃ reason, ofFile engine read path = .error (.invalidModule reason)
  otherFile : ∀ read path, read path = .ok bytes → ¬ HasExtension path "wat" →
    ofFile engine read path = ofBytes engine bytes
  unheaded : ¬ Headed bytes → ∃ reason, Refused engine bytes reason
  text : ∀ text binary, Utf8.encode text = bytes → engine.runtime.assemble text = .ok binary →
    binary ≠ bytes → ∃ reason, Refused engine bytes reason
  both : ∀ text m, Utf8.encode text = bytes → ofBytes engine bytes = .ok m →
    ∃ m', ofText engine text = .ok m' ∧ m'.fingerprint = m.fingerprint ∧ m'.imports = m.imports ∧
      m'.exports = m.exports ∧ Registry.Interchangeable engine (.ofBytes bytes) (.ofModule m')

theorem loads_agree (engine : Engine) (bytes : List UInt8) : LoadsAgree engine bytes where
  textFile := by
    intro read path text file written encodes
    rw [ofFile_of_text file (Files.extension_eq_some.mpr written),
      (Utf8.decode_eq_ok_iff bytes text).mpr encodes]
    rfl
  malformedFile := by
    intro read path file written malformed
    cases decodes : Utf8.decode bytes with
    | ok text => exact absurd ((Utf8.decode_eq_ok_iff bytes text).mp decodes) (malformed text)
    | error fault =>
      rw [ofFile_of_text file (Files.extension_eq_some.mpr written), decodes]
      exact ⟨_, rfl⟩
  otherFile := by
    intro read path file binary
    exact ofFile_of_binary file (mt Files.extension_eq_some.mp binary)
  unheaded := by
    intro other
    obtain ⟨reason, fails⟩ := ofBytes_of_not_headed other
    exact ⟨reason, refused_of_ofBytes fails⟩
  -- Bytes that start like a module are assembled to themselves, so these do not.
  text := by
    rintro text binary rfl assembles other
    have unheaded : ¬ Headed (Utf8.encode text) := fun headed =>
      other (Except.ok.inj (assembles.symm.trans (assemble_of_headed engine headed)))
    obtain ⟨reason, fails⟩ := ofBytes_of_not_headed unheaded
    exact ⟨reason, refused_of_ofBytes fails⟩
  both := by
    rintro text m rfl accepts
    refine ⟨m, ofText_of_ofBytes accepts, rfl, rfl, rfl, ?_⟩
    exact Registry.interchangeable_of_load accepts

example :
    Utf8.encode (String.ofList (mixedBytes.map fun b => Char.ofNat b.toNat)) = mixedBytes := by
  decide

end ModuleHost
