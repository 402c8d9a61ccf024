import ModuleHost.Wasm.Instr

namespace ModuleHost.Wasm.Binary

def intTests (w : LaneWidth) : List VectorOp :=
  ([.eq, .ne, .ltS, .ltU, .gtS, .gtU, .leS, .leU, .geS, .geU] : List IntCompare).map fun op =>
    .binary (.intCompare w op)

def signedTests (w : LaneWidth) : List VectorOp :=
  ([.eq, .ne, .ltS, .gtS, .leS, .geS] : List IntCompare).map fun op => .binary (.intCompare w op)

def floatTests (w : FloatWidth) : List VectorOp :=
  ([.eq, .ne, .lt, .gt, .le, .ge] : List FloatCompare).map fun op => .binary (.floatCompare w op)

def laneUnaries (w : LaneWidth) (ops : List LaneUnary) : List VectorOp :=
  ops.map fun op => .unary (.int w op)

def laneBinaries (w : LaneWidth) (ops : List LaneBinary) : List VectorOp :=
  ops.map fun op => .binary (.int w op)

def floatUnaries (w : FloatWidth) (ops : List FloatUnary) : List VectorOp :=
  ops.map fun op => .unary (.float w op)

def floatBinaries (w : FloatWidth) : List VectorOp :=
  ([.add, .sub, .mul, .div, .min, .max] : List FloatBinary).map (fun op => .binary (.float w op)) ++
    [.binary (.pseudoMin w), .binary (.pseudoMax w)]

def narrows (target : LaneWidth) : List VectorOp :=
  [.binary (.narrow target true), .binary (.narrow target false)]

def laneTests (w : LaneWidth) : List VectorOp :=
  [.test (.allTrue w), .test (.bitmask w)]

def extensions (w : LaneWidth) : List VectorOp :=
  [.unary (.extend w false true), .unary (.extend w true true), .unary (.extend w false false),
    .unary (.extend w true false)]

def halfProducts (w : LaneWidth) : List VectorOp :=
  [.binary (.mulHalves w false true), .binary (.mulHalves w true true),
    .binary (.mulHalves w false false), .binary (.mulHalves w true false)]

def pairSums (w : LaneWidth) : List VectorOp :=
  [.unary (.addPairs w true), .unary (.addPairs w false)]

def shifts (w : LaneWidth) : List VectorOp :=
  [.shift w .shl, .shift w (.shr true), .shift w (.shr false)]

def saturating : List LaneBinary :=
  [.add, .addSat true, .addSat false, .sub, .subSat true, .subSat false]

def extrema : List LaneBinary :=
  [.min true, .min false, .max true, .max false]

def truncations (source : FloatWidth) : List VectorOp :=
  [.unary (.truncateSat source true), .unary (.truncateSat source false)]

def conversions (target : FloatWidth) : List VectorOp :=
  [.unary (.convert target true), .unary (.convert target false)]

def products (w : FloatWidth) : List VectorOp :=
  [.ternary (.mulAdd w false), .ternary (.mulAdd w true)]

/-- Vector operators without immediates, in runs of numbers. Of the results that are allowed for a
relaxed operator, its strict counterpart gives one. -/
def vectorRuns : List (Nat × List VectorOp) :=
  [(14, [.binary .swizzle, .splat (.int .w8), .splat (.int .w16), .splat (.int .w32),
      .splat (.int .w64), .splat (.float .w32), .splat (.float .w64)]),
    (35, intTests .w8 ++ intTests .w16 ++ intTests .w32 ++ floatTests .w32 ++ floatTests .w64),
    (77, [.unary .not, .binary .and, .binary .andNot, .binary .or, .binary .xor,
      .ternary .bitSelect, .test .anyTrue]),
    (94, [.unary .demote, .unary .promote]),
    (96, laneUnaries .w8 [.abs, .neg, .popcnt] ++ laneTests .w8 ++ narrows .w8),
    (103, floatUnaries .w32 [.ceil, .floor, .trunc, .nearest]),
    (107, shifts .w8 ++ laneBinaries .w8 saturating),
    (116, floatUnaries .w64 [.ceil, .floor]),
    (118, laneBinaries .w8 extrema),
    (122, floatUnaries .w64 [.trunc] ++ laneBinaries .w8 [.average] ++ pairSums .w8 ++
      pairSums .w16),
    (128, laneUnaries .w16 [.abs, .neg] ++ laneBinaries .w16 [.mulQ15] ++ laneTests .w16 ++
      narrows .w16 ++ extensions .w8 ++ shifts .w16 ++ laneBinaries .w16 saturating),
    (148, floatUnaries .w64 [.nearest] ++ laneBinaries .w16 (.mul :: extrema)),
    (155, laneBinaries .w16 [.average] ++ halfProducts .w8),
    (160, laneUnaries .w32 [.abs, .neg]),
    (163, laneTests .w32),
    (167, extensions .w16 ++ shifts .w32 ++ laneBinaries .w32 [.add]),
    (177, laneBinaries .w32 [.sub]),
    (181, laneBinaries .w32 (.mul :: extrema) ++ [.binary (.dot .w16)]),
    (188, halfProducts .w16),
    (192, laneUnaries .w64 [.abs, .neg]),
    (195, laneTests .w64),
    (199, extensions .w32 ++ shifts .w64 ++ laneBinaries .w64 [.add]),
    (209, laneBinaries .w64 [.sub]),
    (213, laneBinaries .w64 [.mul] ++ signedTests .w64 ++ halfProducts .w32),
    (224, floatUnaries .w32 [.abs, .neg]),
    (227, floatUnaries .w32 [.sqrt] ++ floatBinaries .w32),
    (236, floatUnaries .w64 [.abs, .neg]),
    (239, floatUnaries .w64 [.sqrt] ++ floatBinaries .w64),
    (248, truncations .w32 ++ conversions .w32 ++ truncations .w64 ++ conversions .w64),
    (256, .binary .swizzle :: truncations .w32 ++ truncations .w64 ++ products .w32 ++
      products .w64 ++ List.replicate 4 (.ternary .bitSelect) ++
      [.binary (.float .w32 .min), .binary (.float .w32 .max), .binary (.float .w64 .min),
        .binary (.float .w64 .max), .binary (.int .w16 .mulQ15), .binary (.dot .w8),
        .ternary .dotAdd])]

def numberedFrom (first : Nat) (items : List α) (n : Nat) : Option α :=
  if first ≤ n then items[n - first]? else none

def plainVectorOp (n : Nat) : Option VectorOp :=
  vectorRuns.findSome? fun (first, ops) => numberedFrom first ops n

def laneOps : List (Nat → VectorOp) :=
  let narrow (w : LaneWidth) : List (Nat → VectorOp) :=
    [.extract (.int w) true, .extract (.int w) false, .replace (.int w)]
  let wide (shape : LaneShape) : List (Nat → VectorOp) :=
    [.extract shape false, .replace shape]
  narrow .w8 ++ narrow .w16 ++ wide (.int .w32) ++ wide (.int .w64) ++ wide (.float .w32) ++
    wide (.float .w64)

def vectorLoads : List VectorLoad :=
  [.extend .w8 true, .extend .w8 false, .extend .w16 true, .extend .w16 false, .extend .w32 true,
    .extend .w32 false, .splat .w8, .splat .w16, .splat .w32, .splat .w64]

def laneWidths : List LaneWidth :=
  [.w8, .w16, .w32, .w64]

end ModuleHost.Wasm.Binary
