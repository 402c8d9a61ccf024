import ModuleHost.Wasm.Binary.Writer
import ModuleHost.Wasm.Fault
import ModuleHost.Wasm.Text.Number

namespace ModuleHost.Wasm.Text

inductive Shape where
  | plain
  | block
  | close (ends : Bool)
  | one (space : IndexSpace)
  | optional (space : IndexSpace)
  | copy (space : IndexSpace)
  | init (target source : IndexSpace)
  | branches
  | indirect
  | select
  | heap
  | integer (bits : Nat)
  | float (format : Ieee.Format)
  | vector
  | access (bytes : Nat)
  | lane
  | lanes
  | laneAccess (bytes : Nat)
  deriving DecidableEq, Repr

structure Mnemonic where
  word : String
  opcode : List UInt8
  shape : Shape
  deriving DecidableEq, Repr

def under (type : String) (names : List String) : List String :=
  names.map fun n => type ++ "." ++ n

def run (opcode : Nat → List UInt8) (first : Nat) (shape : Shape) (words : List String) :
    List Mnemonic :=
  words.zipIdx.map fun (word, i) => ⟨word, opcode (first + i), shape⟩

def plainCode (n : Nat) : List UInt8 :=
  [UInt8.ofNat n]

def miscCode (n : Nat) : List UInt8 :=
  0xfc :: Binary.writeUnsigned n

def vectorCode (n : Nat) : List UInt8 :=
  0xfd :: Binary.writeUnsigned n

def intTests : List String :=
  ["eq", "ne", "lt_s", "lt_u", "gt_s", "gt_u", "le_s", "le_u", "ge_s", "ge_u"]

def floatTests : List String :=
  ["eq", "ne", "lt", "gt", "le", "ge"]

def intNames : List String :=
  ["clz", "ctz", "popcnt", "add", "sub", "mul", "div_s", "div_u", "rem_s", "rem_u", "and", "or",
    "xor", "shl", "shr_s", "shr_u", "rotl", "rotr"]

def floatNames : List String :=
  ["abs", "neg", "ceil", "floor", "trunc", "nearest", "sqrt", "add", "sub", "mul", "div", "min",
    "max", "copysign"]

def conversions : List String :=
  ["i32.wrap_i64", "i32.trunc_f32_s", "i32.trunc_f32_u", "i32.trunc_f64_s", "i32.trunc_f64_u",
    "i64.extend_i32_s", "i64.extend_i32_u", "i64.trunc_f32_s", "i64.trunc_f32_u",
    "i64.trunc_f64_s", "i64.trunc_f64_u", "f32.convert_i32_s", "f32.convert_i32_u",
    "f32.convert_i64_s", "f32.convert_i64_u", "f32.demote_f64", "f64.convert_i32_s",
    "f64.convert_i32_u", "f64.convert_i64_s", "f64.convert_i64_u", "f64.promote_f32",
    "i32.reinterpret_f32", "i64.reinterpret_f64", "f32.reinterpret_i32", "f64.reinterpret_i64",
    "i32.extend8_s", "i32.extend16_s", "i64.extend8_s", "i64.extend16_s", "i64.extend32_s"]

def numeric : List Mnemonic :=
  run plainCode 0x45 .plain <|
    under "i32" ("eqz" :: intTests) ++ under "i64" ("eqz" :: intTests) ++
      under "f32" floatTests ++ under "f64" floatTests ++
      under "i32" intNames ++ under "i64" intNames ++
      under "f32" floatNames ++ under "f64" floatNames ++ conversions

def saturating : List Mnemonic :=
  run miscCode 0 .plain
    ["i32.trunc_sat_f32_s", "i32.trunc_sat_f32_u", "i32.trunc_sat_f64_s", "i32.trunc_sat_f64_u",
      "i64.trunc_sat_f32_s", "i64.trunc_sat_f32_u", "i64.trunc_sat_f64_s", "i64.trunc_sat_f64_u"]

def accesses : List Mnemonic :=
  [("i32.load", 4), ("i64.load", 8), ("f32.load", 4), ("f64.load", 8), ("i32.load8_s", 1),
    ("i32.load8_u", 1), ("i32.load16_s", 2), ("i32.load16_u", 2), ("i64.load8_s", 1),
    ("i64.load8_u", 1), ("i64.load16_s", 2), ("i64.load16_u", 2), ("i64.load32_s", 4),
    ("i64.load32_u", 4), ("i32.store", 4), ("i64.store", 8), ("f32.store", 4), ("f64.store", 8),
    ("i32.store8", 1), ("i32.store16", 2), ("i64.store8", 1), ("i64.store16", 2),
    ("i64.store32", 4)].zipIdx.map fun ((word, bytes), i) =>
      ⟨word, plainCode (0x28 + i), .access bytes⟩

def control : List Mnemonic :=
  [⟨"unreachable", [0x00], .plain⟩, ⟨"nop", [0x01], .plain⟩, ⟨"block", [0x02], .block⟩,
    ⟨"loop", [0x03], .block⟩, ⟨"if", [0x04], .block⟩, ⟨"else", [0x05], .close false⟩,
    ⟨"end", [0x0b], .close true⟩, ⟨"br", [0x0c], .one .label⟩, ⟨"br_if", [0x0d], .one .label⟩,
    ⟨"br_table", [0x0e], .branches⟩, ⟨"return", [0x0f], .plain⟩, ⟨"call", [0x10], .one .func⟩,
    ⟨"call_indirect", [0x11], .indirect⟩, ⟨"return_call", [0x12], .one .func⟩,
    ⟨"return_call_indirect", [0x13], .indirect⟩, ⟨"drop", [0x1a], .plain⟩,
    ⟨"select", [], .select⟩]

def accessors : List Mnemonic :=
  [⟨"local.get", [0x20], .one .local⟩, ⟨"local.set", [0x21], .one .local⟩,
    ⟨"local.tee", [0x22], .one .local⟩, ⟨"global.get", [0x23], .one .global⟩,
    ⟨"global.set", [0x24], .one .global⟩, ⟨"table.get", [0x25], .optional .table⟩,
    ⟨"table.set", [0x26], .optional .table⟩, ⟨"memory.size", [0x3f], .optional .memory⟩,
    ⟨"memory.grow", [0x40], .optional .memory⟩, ⟨"i32.const", [0x41], .integer 32⟩,
    ⟨"i64.const", [0x42], .integer 64⟩, ⟨"f32.const", [0x43], .float Ieee.binary32⟩,
    ⟨"f64.const", [0x44], .float Ieee.binary64⟩, ⟨"ref.null", [0xd0], .heap⟩,
    ⟨"ref.is_null", [0xd1], .plain⟩, ⟨"ref.func", [0xd2], .one .func⟩]

def bulk : List Mnemonic :=
  [("memory.init", .init .memory .data), ("data.drop", .one .data), ("memory.copy", .copy .memory),
    ("memory.fill", .optional .memory), ("table.init", .init .table .elem),
    ("elem.drop", .one .elem), ("table.copy", .copy .table), ("table.grow", .optional .table),
    ("table.size", .optional .table), ("table.fill", .optional .table)].zipIdx.map
      fun ((word, shape), i) => ⟨word, miscCode (8 + i), shape⟩

def vectorAccesses : List Mnemonic :=
  [("load", 0, .access 16), ("load8x8_s", 1, .access 8), ("load8x8_u", 2, .access 8),
    ("load16x4_s", 3, .access 8), ("load16x4_u", 4, .access 8), ("load32x2_s", 5, .access 8),
    ("load32x2_u", 6, .access 8), ("load8_splat", 7, .access 1), ("load16_splat", 8, .access 2),
    ("load32_splat", 9, .access 4), ("load64_splat", 10, .access 8), ("store", 11, .access 16),
    ("load8_lane", 84, .laneAccess 1), ("load16_lane", 85, .laneAccess 2),
    ("load32_lane", 86, .laneAccess 4), ("load64_lane", 87, .laneAccess 8),
    ("store8_lane", 88, .laneAccess 1), ("store16_lane", 89, .laneAccess 2),
    ("store32_lane", 90, .laneAccess 4), ("store64_lane", 91, .laneAccess 8),
    ("load32_zero", 92, .access 4), ("load64_zero", 93, .access 8),
    ("const", 12, .vector)].map fun (word, n, shape) => ⟨"v128." ++ word, vectorCode n, shape⟩

def laneMoves : List Mnemonic :=
  run vectorCode 21 .lane
    ["i8x16.extract_lane_s", "i8x16.extract_lane_u", "i8x16.replace_lane", "i16x8.extract_lane_s",
      "i16x8.extract_lane_u", "i16x8.replace_lane", "i32x4.extract_lane", "i32x4.replace_lane",
      "i64x2.extract_lane", "i64x2.replace_lane", "f32x4.extract_lane", "f32x4.replace_lane",
      "f64x2.extract_lane", "f64x2.replace_lane"]

def extendNames (source : String) : List String :=
  ["extend_low_" ++ source ++ "_s", "extend_high_" ++ source ++ "_s",
    "extend_low_" ++ source ++ "_u", "extend_high_" ++ source ++ "_u"]

def extendedProducts (source : String) : List String :=
  ["extmul_low_" ++ source ++ "_s", "extmul_high_" ++ source ++ "_s",
    "extmul_low_" ++ source ++ "_u", "extmul_high_" ++ source ++ "_u"]

def shifts : List String :=
  ["shl", "shr_s", "shr_u"]

def saturatingSums : List String :=
  ["add", "add_sat_s", "add_sat_u", "sub", "sub_sat_s", "sub_sat_u"]

def extrema : List String :=
  ["min_s", "min_u", "max_s", "max_u"]

def vectorFloats : List String :=
  ["add", "sub", "mul", "div", "min", "max", "pmin", "pmax"]

def vectorRuns : List (Nat × List String) :=
  [(14, ["i8x16.swizzle", "i8x16.splat", "i16x8.splat", "i32x4.splat", "i64x2.splat",
      "f32x4.splat", "f64x2.splat"]),
    (35, under "i8x16" intTests ++ under "i16x8" intTests ++ under "i32x4" intTests ++
      under "f32x4" floatTests ++ under "f64x2" floatTests),
    (77, under "v128" ["not", "and", "andnot", "or", "xor", "bitselect", "any_true"]),
    (94, ["f32x4.demote_f64x2_zero", "f64x2.promote_low_f32x4"]),
    (96, under "i8x16" ["abs", "neg", "popcnt", "all_true", "bitmask", "narrow_i16x8_s",
      "narrow_i16x8_u"]),
    (103, under "f32x4" ["ceil", "floor", "trunc", "nearest"]),
    (107, under "i8x16" (shifts ++ saturatingSums)),
    (116, ["f64x2.ceil", "f64x2.floor"]),
    (118, under "i8x16" extrema),
    (122, ["f64x2.trunc", "i8x16.avgr_u", "i16x8.extadd_pairwise_i8x16_s",
      "i16x8.extadd_pairwise_i8x16_u", "i32x4.extadd_pairwise_i16x8_s",
      "i32x4.extadd_pairwise_i16x8_u"]),
    (128, under "i16x8" (["abs", "neg", "q15mulr_sat_s", "all_true", "bitmask", "narrow_i32x4_s",
      "narrow_i32x4_u"] ++ extendNames "i8x16" ++ shifts ++ saturatingSums)),
    (148, "f64x2.nearest" :: under "i16x8" ("mul" :: extrema)),
    (155, under "i16x8" ("avgr_u" :: extendedProducts "i8x16")),
    (160, under "i32x4" ["abs", "neg"]),
    (163, under "i32x4" ["all_true", "bitmask"]),
    (167, under "i32x4" (extendNames "i16x8" ++ shifts ++ ["add"])),
    (177, ["i32x4.sub"]),
    (181, under "i32x4" ("mul" :: extrema ++ ["dot_i16x8_s"])),
    (188, under "i32x4" (extendedProducts "i16x8")),
    (192, under "i64x2" ["abs", "neg"]),
    (195, under "i64x2" ["all_true", "bitmask"]),
    (199, under "i64x2" (extendNames "i32x4" ++ shifts ++ ["add"])),
    (209, ["i64x2.sub"]),
    (213, under "i64x2" (["mul", "eq", "ne", "lt_s", "gt_s", "le_s", "ge_s"] ++
      extendedProducts "i32x4")),
    (224, under "f32x4" ["abs", "neg"]),
    (227, under "f32x4" ("sqrt" :: vectorFloats)),
    (236, under "f64x2" ["abs", "neg"]),
    (239, under "f64x2" ("sqrt" :: vectorFloats)),
    (248, ["i32x4.trunc_sat_f32x4_s", "i32x4.trunc_sat_f32x4_u", "f32x4.convert_i32x4_s",
      "f32x4.convert_i32x4_u", "i32x4.trunc_sat_f64x2_s_zero", "i32x4.trunc_sat_f64x2_u_zero",
      "f64x2.convert_low_i32x4_s", "f64x2.convert_low_i32x4_u", "i8x16.relaxed_swizzle",
      "i32x4.relaxed_trunc_f32x4_s", "i32x4.relaxed_trunc_f32x4_u",
      "i32x4.relaxed_trunc_f64x2_s_zero", "i32x4.relaxed_trunc_f64x2_u_zero",
      "f32x4.relaxed_madd", "f32x4.relaxed_nmadd", "f64x2.relaxed_madd", "f64x2.relaxed_nmadd",
      "i8x16.relaxed_laneselect", "i16x8.relaxed_laneselect", "i32x4.relaxed_laneselect",
      "i64x2.relaxed_laneselect", "f32x4.relaxed_min", "f32x4.relaxed_max", "f64x2.relaxed_min",
      "f64x2.relaxed_max", "i16x8.relaxed_q15mulr_s", "i16x8.relaxed_dot_i8x16_i7x16_s",
      "i32x4.relaxed_dot_i8x16_i7x16_add_s"])]

def mnemonics : List Mnemonic :=
  control ++ accessors ++ accesses ++ numeric ++ saturating ++ bulk ++ vectorAccesses ++
    ⟨"i8x16.shuffle", vectorCode 13, .lanes⟩ :: laneMoves ++
    vectorRuns.flatMap fun (first, words) => run vectorCode first .plain words

end ModuleHost.Wasm.Text
