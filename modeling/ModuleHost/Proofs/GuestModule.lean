import ModuleHost.GuestModule
import ModuleHost.Proofs.Wasm.Binary
import ModuleHost.Proofs.Wasm.Validity

namespace ModuleHost

namespace GuestModule

/-- Modules that an engine has accepted, from whatever source. -/
inductive Compiled (engine : Engine) (m : GuestModule) : Prop
  | ofBytes {bytes : List UInt8} (accepts : ofBytes engine bytes = .ok m)
  | ofText {text : String} (accepts : ofText engine text = .ok m)
  | ofFile {read : Files.Reader} {path : String} (accepts : ofFile engine read path = .ok m)

variable {engine : Engine} {m : GuestModule} {q : String} {bytes : List UInt8} {text : String}
  {read : Files.Reader} {path : String} {e : Failure}

/-- Bytes that may be a binary module: eight of them at least, the magic number first. -/
structure Headed (bytes : List UInt8) : Prop where
  long : 8 ≤ bytes.length
  starts : magic <+: bytes

theorem ofBytes_eq_ok :
    ofBytes engine bytes = .ok m ↔ Headed bytes ∧
      accept engine (Wasm.Binary.decode bytes) = .ok m.module ∧
      m.fingerprint = ModuleHost.fingerprint bytes := by
  constructor
  · intro accepts
    unfold ofBytes at accepts
    split at accepts
    · cases accepts
    · rename_i long
      split at accepts
      · cases accepts
      · rename_i starts
        split at accepts <;> cases accepts
        refine ⟨⟨Nat.le_of_not_lt long, ?_⟩, ‹_›, rfl⟩
        exact List.isPrefixOf_iff_prefix.mp (by simpa using starts)
  · rintro ⟨headed, accepts, named⟩
    have starts := List.isPrefixOf_iff_prefix.mpr headed.starts
    rw [ofBytes, if_neg (Nat.not_lt_of_le headed.long), starts, accepts, ← named]
    rfl

theorem ofBytes_eq_error (fails : ofBytes engine bytes = .error e) :
    ∃ reason, e = .invalidModule reason := by
  unfold ofBytes at fails
  repeat' split at fails
  all_goals cases fails
  all_goals exact ⟨_, rfl⟩

theorem ofText_eq_ok :
    ofText engine text = .ok m ↔
      (∃ bytes, engine.runtime.assemble text = .ok bytes ∧
        accept engine (Wasm.Binary.decode bytes) = .ok m.module) ∧
      m.fingerprint = ModuleHost.fingerprint (Utf8.encode text) := by
  have assembled : accept engine (engine.runtime.assemble text >>= Wasm.Binary.decode) =
        .ok m.module ↔ ∃ bytes, engine.runtime.assemble text = .ok bytes ∧
      accept engine (Wasm.Binary.decode bytes) = .ok m.module := by
    cases engine.runtime.assemble text with
    | error fault =>
      have refused : accept engine (.error fault) ≠ .ok m.module := nofun
      simp [bind, Except.bind, refused]
    | ok bytes => simp [bind, Except.bind]
  rw [← assembled]
  unfold ofText
  generalize accept engine _ = accepted
  cases accepted with
  | error fault => simp
  | ok module =>
    obtain ⟨module', name⟩ := m
    simp [eq_comm]

theorem ofText_eq_error (fails : ofText engine text = .error e) :
    ∃ reason, e = .invalidModule reason := by
  unfold ofText at fails
  split at fails <;> cases fails
  exact ⟨_, rfl⟩

theorem ofFile_of_binary (file : read path = .ok bytes)
    (binary : Files.extension path ≠ some "wat") :
    ofFile engine read path = ofBytes engine bytes := by
  simp only [ofFile, file, if_neg binary]

theorem ofFile_of_text (file : read path = .ok bytes)
    (written : Files.extension path = some "wat") :
    ofFile engine read path =
      ((Utf8.decode bytes).mapError fun fault =>
        .invalidModule ("WAT is not UTF-8: " ++ fault.message)) >>= ofText engine := by
  simp only [ofFile, file, if_pos written]
  cases Utf8.decode bytes <;> rfl

theorem ofFile_eq_error (fails : ofFile engine read path = .error e) :
    (∃ text, e = .io text) ∨ ∃ reason, e = .invalidModule reason := by
  cases file : read path with
  | error fault =>
    simp only [ofFile, file] at fails
    cases fails
    exact .inl ⟨_, rfl⟩
  | ok bytes =>
    refine .inr ?_
    by_cases written : Files.extension path = some "wat"
    · rw [ofFile_of_text file written] at fails
      rcases bind_eq_error.mp fails with malformed | ⟨text, -, fails⟩
      · obtain ⟨fault, -, rfl⟩ := mapError_eq_error.mp malformed
        exact ⟨_, rfl⟩
      · exact ofText_eq_error fails
    · rw [ofFile_of_binary file written] at fails
      exact ofBytes_eq_error fails

theorem ofFile_eq_ok (accepts : ofFile engine read path = .ok m) :
    (∃ bytes, ofBytes engine bytes = .ok m) ∨ ∃ text, ofText engine text = .ok m := by
  cases file : read path with
  | error fault =>
    simp only [ofFile, file] at accepts
    cases accepts
  | ok bytes =>
    by_cases written : Files.extension path = some "wat"
    · rw [ofFile_of_text file written] at accepts
      obtain ⟨text, -, accepts⟩ := bind_eq_ok.mp accepts
      exact .inr ⟨text, accepts⟩
    · rw [ofFile_of_binary file written] at accepts
      exact .inl ⟨bytes, accepts⟩

theorem Compiled.accepted (compiled : Compiled engine m) :
    ∃ bytes, accept engine (Wasm.Binary.decode bytes) = .ok m.module := by
  have binary {bytes : List UInt8} (accepts : GuestModule.ofBytes engine bytes = .ok m) :
      ∃ bytes, accept engine (Wasm.Binary.decode bytes) = .ok m.module :=
    ⟨bytes, (ofBytes_eq_ok.mp accepts).2.1⟩
  have written {text : String} (accepts : GuestModule.ofText engine text = .ok m) :
      ∃ bytes, accept engine (Wasm.Binary.decode bytes) = .ok m.module := by
    obtain ⟨⟨bytes, -, accepted⟩, -⟩ := ofText_eq_ok.mp accepts
    exact ⟨bytes, accepted⟩
  cases compiled with
  | ofBytes accepts => exact binary accepts
  | ofText accepts => exact written accepts
  | ofFile accepts =>
    rcases ofFile_eq_ok accepts with ⟨bytes, accepts⟩ | ⟨text, accepts⟩
    · exact binary accepts
    · exact written accepts

theorem accept_eq_ok {source : Except Wasm.ModuleFault Wasm.Module} {module : Wasm.Module} :
    accept engine source = .ok module ↔ source = .ok module ∧
      Wasm.Validation.check module = .ok () ∧ checkSlot engine.settings module = .ok () := by
  simp only [accept, bind_eq_ok]
  constructor
  · rintro ⟨_, reads, _, valid, _, fits, same⟩
    cases same
    exact ⟨reads, valid, fits⟩
  · rintro ⟨reads, valid, fits⟩
    exact ⟨module, reads, (), valid, (), fits, rfl⟩

theorem Compiled.check (compiled : Compiled engine m) :
    Wasm.Validation.check m.module = .ok () := by
  obtain ⟨bytes, accepts⟩ := compiled.accepted
  exact (accept_eq_ok.mp accepts).2.1

theorem Compiled.sized (compiled : Compiled engine m) : m.module.Sized := by
  obtain ⟨bytes, accepts⟩ := compiled.accepted
  exact Wasm.Binary.sized_of_decode (accept_eq_ok.mp accepts).1

theorem names_exports (m : GuestModule) :
    m.exports.map Listing.name = m.module.exports.map Wasm.Export.name := by
  simp [exports, listing, Function.comp_def]

theorem length_filter_exports (valid : Wasm.Validation.check m.module = .ok ()) (q : String) :
    (m.exports.filter (·.name = q)).length ≤ 1 := by
  have distinct := Wasm.Validation.nodup_of_check valid
  rw [← names_exports] at distinct
  have once := List.nodup_iff_count_le_one.mp distinct q
  rw [List.count, List.countP_map] at once
  rw [← List.countP_eq_length_filter]
  exact once

theorem kind_eq_func {target : Wasm.ExportTarget} :
    target.kind = "func" ↔ ∃ f, target = .func f := by
  cases target <;> simp [Wasm.ExportTarget.kind]

theorem ofBytes_of_check {module : Wasm.Module} (long : 8 ≤ bytes.length)
    (starts : magic.isPrefixOf bytes = true) (decodes : Wasm.Binary.decode bytes = .ok module)
    (valid : Wasm.Validation.check module = .ok ())
    (fits : checkSlot engine.settings module = .ok ()) :
    ofBytes engine bytes = .ok ⟨module, ModuleHost.fingerprint bytes⟩ := by
  have headed : Headed bytes := ⟨long, List.isPrefixOf_iff_prefix.mp starts⟩
  exact ofBytes_eq_ok.mpr ⟨headed, accept_eq_ok.mpr ⟨decodes, valid, fits⟩, rfl⟩

def mixedBytes : List UInt8 :=
  [0, 97, 115, 109, 1, 0, 0, 0, 1, 10, 2, 96, 1, 127, 1, 127, 96, 1, 112, 0, 3, 3, 2, 0, 1, 5, 3,
    1, 0, 1, 7, 19, 3, 3, 114, 117, 110, 0, 0, 3, 114, 101, 102, 0, 1, 3, 109, 101, 109, 2, 0, 10,
    9, 2, 4, 0, 32, 0, 11, 2, 0, 11]

def mixed : GuestModule where
  module := {
    types := #[⟨[.i32], [.i32]⟩, ⟨[.funcref], []⟩], imports := []
    funcs := #[⟨0, [], [.op (.var (.localGet 0))]⟩, ⟨1, [], []⟩]
    tables := #[], memories := #[⟨1, none⟩]
    globals := #[], exports := [⟨"run", .func 0⟩, ⟨"ref", .func 1⟩, ⟨"mem", .memory 0⟩]
    start := none, elems := #[], dataCount := none, datas := #[] }
  fingerprint := ModuleHost.fingerprint mixedBytes

theorem ofBytes_mixed (separate : engine.settings.pooling = false) :
    ofBytes engine mixedBytes = .ok mixed := by
  refine ofBytes_of_check (by decide) rfl rfl (by decide +kernel) ?_
  rw [checkSlot, separate]
  rfl

end GuestModule

end ModuleHost
