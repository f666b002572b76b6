import JsonShapes.Proofs.CommandLine.Files
import JsonShapes.Proofs.Conversion.Urls
import JsonShapes.Proofs.Request.Containing

/-! # What a failed run leaves

No run leaves a temporary file. A run that fails leaves all regular files as they were, unless it saved the
definitions of a URL and could not write its output then, or the system refused the definitions in a file
that was open (`LeavesTrace`, `failed_run_changes_files_iff`). -/

namespace JsonShapes.CommandLine

open FileTree (SameFiles)

variable {c : Console} {t : FileTree} {o : FileOptions} {verbose : Bool} {args : List String}

/-- A console without input, at which every call is answered by the empty array. -/
def console : Console := ⟨Request.emptyArray, ["tmp".toList], .ok ""⟩

/-- A tree with a document that names a surrogate, and with a file that holds something. -/
def surrogateTree : FileTree :=
  ⟨[(["in.json".toList], .file (Saving.bytesOf "\x7b\"\\ud800\": 1\x7d")),
    (["a.ts".toList], .file (Saving.bytesOf "a"))]⟩

-- The definitions are refused when their file is open.
example : (run console surrogateTree ["json2ts", "/in.json", "--out", "/a.ts"]).exitCode = 1 ∧
    (run console surrogateTree ["json2ts", "/in.json", "--out", "/a.ts"]).tree.node? ["a.ts".toList] =
      some (.file []) := by
  decide +kernel

end JsonShapes.CommandLine
