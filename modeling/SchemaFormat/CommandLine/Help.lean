import SchemaFormat.CommandLine.Arguments

/-!
The texts that explain the command line.
-/

namespace SchemaFormat.CommandLine

def versionText : String :=
  "prismafmt 0.1.0
"

def programHelp : String :=
  "Prisma schema formatter

Usage: prismafmt [OPTIONS] <COMMAND>

Commands:
  fmt        Format Prisma files
  languages  Print the registered languages as JSON
  request    Print the request that would be sent to the engine for a file
  help       Print this message or the help of the given subcommand(s)

Options:
  -v, --verbose  Enable debug logging
  -h, --help     Print help
  -V, --version  Print version
"

/-- How `fmt` is used, the environment naming an engine or none. -/
def formatHelp (named : Option Bytes) : String :=
  let engine := Bytes.display (named.getD [])
  "Format Prisma files

Usage: prismafmt fmt [OPTIONS] [PATHS]...

Arguments:
  [PATHS]...  Paths (files or directories) to format (defaults to current dir)

Options:
  -v, --verbose
          Enable debug logging
      --write
          Write the formatted content back to the files
      --check
          Check if files are formatted; non-zero exit if changes needed
      --tab-width <TAB_WIDTH>
          Indent width [default: 2]
      --use-tabs
          Indent with tabs instead of spaces
      --parser <PARSER>
          Parser to use instead of inferring it from the file extension
      --engine <ENGINE>
          Formatting engine program [env: PRISMAFMT_ENGINE=" ++ engine ++ "] [default: prisma-fmt]
      --engine-arg <ENGINE_ARGS>
          Extra argument passed to the engine before the request
      --stdin-filepath <STDIN_FILEPATH>
          Format stdin as if it were this file and print the result
  -h, --help
          Print help
"

def languagesHelp : String :=
  "Print the registered languages as JSON

Usage: prismafmt languages [OPTIONS]

Options:
  -v, --verbose  Enable debug logging
  -h, --help     Print help
"

def requestHelp : String :=
  "Print the request that would be sent to the engine for a file

Usage: prismafmt request [OPTIONS] <FILE>

Arguments:
  <FILE>" ++ "  " ++ "

Options:
      --tab-width <TAB_WIDTH>  Indent width [default: 2]
  -v, --verbose                Enable debug logging
      --use-tabs               Indent with tabs instead of spaces
  -h, --help                   Print help
"

def helpHelp : String :=
  "Print this message or the help of the given subcommand(s)

Usage: prismafmt help [COMMAND]...

Arguments:
  [COMMAND]...  Print help for the subcommand(s)
"

def helpText (named : Option Bytes) : Topic → String
  | .program => programHelp
  | .format => formatHelp named
  | .languages => languagesHelp
  | .request => requestHelp
  | .help => helpHelp

end SchemaFormat.CommandLine
