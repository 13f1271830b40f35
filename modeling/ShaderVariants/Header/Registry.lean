import ShaderVariants.Header.Basic
import ShaderVariants.Job

/-!
The two headers about all shaders of a build: one with the key of every stage as bit fields, and
one with the compiled code of every variant, found by shader, stage and key.
-/

namespace ShaderVariants.Header

/-- The names, without extension, that no structure and no interface may take. -/
def keysName : String := "shaderpermutations"
def byteCodesName : String := "shaderbytecodes"

/-! ## Keys -/

def stageLine (s : Stage) : String := s!"    {s.name} = {s.index},"

def keyFieldLine (field : String) : String := s!"            uint32_t {field} : 1;"

def keyStruct (k : KeyFields) : List String :=
  [s!"struct {k.structName}", openBrace,
    s!"    static constexpr uint32_t ShaderId = {KeyFields.idText k.shaderId};",
    s!"    static constexpr ShaderStage Stage = ShaderStage::{k.stage.name};",
    "",
    "    union",
    "    " ++ openBrace,
    "        struct",
    "        " ++ openBrace] ++
  k.fields.map keyFieldLine ++
  ["        \x7d Bits;", "        uint32_t Key = 0;", "    " ++ closeBrace, closeBrace]

def keys (ks : List KeyFields) : Header :=
  ofLines (fileOf keysName) <|
    banner ++ ["", "#pragma once", "", "#include <cstdint>", "",
      "enum class ShaderStage : uint32_t", openBrace] ++
    Stage.all.map stageLine ++ [closeBrace] ++
    ks.flatMap (fun k => "" :: keyStruct k) ++ [""]

/-! ## Compiled code -/

/-- The entry of one variant in the table of compiled code. -/
structure Record where
  outputFile : String
  byteCode : String
  key : Key
  shaderId : Nat
  stage : Stage
  deriving DecidableEq, Repr

def Record.ofJob (j : Job) : Record := ⟨j.outputFile, j.byteCode, j.key, j.shaderId, j.stage⟩

def compiledLine (r : Record) : String := s!"#include \"{r.outputFile}\""

def recordLine (r : Record) : String :=
  s!"    \x7b {r.byteCode}, sizeof({r.byteCode}), {r.key.text}, {KeyFields.idText r.shaderId}, " ++
    s!"ShaderStage::{r.stage.name} \x7d,"

def recordTable (records : List Record) : List String :=
  if records.isEmpty then ["static const ShaderByteCode* const g_ShaderByteCodes = nullptr;"]
  else ["static const ShaderByteCode g_ShaderByteCodes[] =", openBrace] ++
    records.map recordLine ++ [closeBrace]

def byteCodeLines (records : List Record) : List String :=
  banner ++ ["", "#pragma once", "", "#include <cstddef>", "#include <cstdint>", "",
    includeLine keysName, ""] ++
  records.map compiledLine ++
  ["", "struct ShaderByteCode", openBrace,
    "    const void* ByteCode;",
    "    size_t ByteCodeLength;",
    "    uint32_t PermutationKey;",
    "    uint32_t ShaderId;",
    "    ShaderStage Stage;",
    closeBrace, ""] ++
  recordTable records ++
  ["", s!"static constexpr size_t g_ShaderByteCodeCount = {records.length};"]

def byteCodes (jobs : List Job) : Header :=
  ofLines (fileOf byteCodesName) (byteCodeLines (jobs.map Record.ofJob))

end ShaderVariants.Header
