import TexCensus.Proofs.Command.EachSource
import TexCensus.Proofs.Files.Path

/-!
# What a failed run leaves behind

A run creates at most two files, the trace and then the output, and prints only behind both
(`Command.run_cases`). So where it fails it has printed nothing, and the only file that can be new is
the trace, namely if it is the output that could not be created. The trace may have the path of the
output, or a path on the way to it; but a path at which no file can be created leads to no new file,
and what is at the path of the output stays (`Command.run_of_exitCode_eq_one`).
-/

namespace TexCensus.Command

variable {files after : Files} {o : Options} {task : Task}

end TexCensus.Command
