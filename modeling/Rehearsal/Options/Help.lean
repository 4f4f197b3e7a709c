import Rehearsal.Options.Reader

/-!
# Help

What the command line says about itself: how it is used, and what each option does.
-/

namespace Rehearsal.Options

/-- The name of the program. -/
def program : String := "hlscript"

/-- Lines as text. -/
def ofLines (lines : List String) : String := String.join (lines.map (· ++ "\n"))

/-- How the program is used. -/
def usage : String :=
  ofLines [
    "usage: hlscript [-h] [--glob GLOB] [--run REGEX] [-u] [--testwork]",
    "                [--workdir-root DIR] [--short] [--timeout SEC]",
    "                [--phase-prefix PREFIX] [--comment-prefix PREFIX] [-v]",
    "                [--init-config]",
    "                [DIR]"]

/-- What is said when help is asked for. -/
def help : String :=
  usage ++ ofLines [
    "",
    "Run script archives as tests",
    "",
    "positional arguments:",
    "  DIR                   Directory holding the scripts (default: current",
    "                        directory)",
    "",
    "options:",
    "  -h, --help            show this help message and exit",
    "",
    "selection options:",
    "  --glob GLOB           Pattern selecting script files inside DIR (default:",
    "                        *.hls)",
    "  --run REGEX           Only run scripts whose name matches REGEX",
    "",
    "runtime options:",
    "  -u, --update          Rewrite golden files when 'cmp stdout|stderr FILE'",
    "                        fails",
    "  --testwork            Keep work directories after the run",
    "  --workdir-root DIR    Create work directories under DIR (implies --testwork)",
    "  --short               Set the [short] condition (and clear [net])",
    "  --timeout SEC         Cancel each script after SEC seconds (default: none,",
    "                        0=none)",
    "  --phase-prefix PREFIX",
    "                        Line prefix that starts a new phase (default: '#')",
    "  --comment-prefix PREFIX",
    "                        Line prefix that marks a comment (default: '~')",
    "",
    "global options:",
    "  -v, --verbose         Show full transcripts and enable verbose logging",
    "  --init-config         Generate a new .hlscript/config.toml file with all",
    "                        options commented out",
    "",
    "Examples:",
    "  hlscript testdata                    Run testdata/*.hls",
    "  hlscript testdata --run 'http_.*'    Run only scripts whose name matches",
    "  hlscript testdata -u                 Update golden files that no longer match",
    "  hlscript --init-config               Create .hlscript/config.toml"]

/-- What is said of a command line that cannot be read. -/
def complaint (e : UsageError) : String := usage ++ s!"{program}: error: {e.message}\n"

end Rehearsal.Options
