import CodeSurvey.Command
import CodeSurvey.Report

/-! What is said of the command line itself. -/
namespace CodeSurvey

def usageText : String :=
  "Usage: " ++ Report.programName ++ " [-v] analyze <PATH> [OPTIONS]\n" ++
  "       " ++ Report.programName ++ " [-v] languages [--json]\n\n" ++
  "Options of analyze:\n" ++
  "  -c, --config <FILE>        configuration file, YAML or JSON\n" ++
  "  -f, --format <FORMAT>      pretty or json\n" ++
  "  -o, --output <FILE>        write the report to a file\n" ++
  "  -j, --parallelism <N>      number of workers\n" ++
  "  -l, --language <NAME>      only this language (repeatable)\n" ++
  "  -e, --exclude <GLOB>       leave out these files (repeatable)\n" ++
  "      --max-file-size <N>    leave out larger files\n" ++
  "      --no-ast               leave out outlines\n" ++
  "      --no-semantic          leave out symbols and calls\n" ++
  "      --follow-links         follow symbolic links\n"

/-- What is printed instead of the reply of a command. -/
def UsageError.text : UsageError → String
  | nothingGiven | help => usageText
  | version => Report.programName ++ " " ++ Report.version ++ "\n"
  | missingCommand => "error: a command is missing\n\n" ++ usageText
  | unknownCommand => "error: there is no such command\n\n" ++ usageText
  | unknownArgument => "error: unexpected argument\n\n" ++ usageText
  | missingPath => "error: a path is missing\n\n" ++ usageText
  | missingValue => "error: a value is missing\n\n" ++ usageText
  | badNumber => "error: a value is not a number\n\n" ++ usageText
  | repeated => "error: an option is given twice\n\n" ++ usageText
  | unexpectedValue => "error: a value is given to an option that takes none\n\n" ++ usageText

end CodeSurvey
