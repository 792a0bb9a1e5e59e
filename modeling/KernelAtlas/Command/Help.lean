/-! The texts that explain the program and its commands to a user: a usage for each, and what follows it
in the help. -/

set_option autoImplicit false

namespace KernelAtlas.Command.Help

def paragraph (lines : List String) : String := String.join (lines.map (· ++ "\n"))

def version : String := "hipster 0.3.0\n"

def programUsage : List String :=
  [
    "usage: hipster [-h] [--version] [-v] COMMAND ..."
  ]

def programBody : List String :=
  [
    "",
    "Map HIP source lines to generated GCN assembly and back",
    "",
    "positional arguments:",
    "  COMMAND",
    "    kernels      List kernels and referenced source files",
    "    match        Find kernels compiled from a source file",
    "    lookup       Map an assembly line to its source location",
    "    diff         Compare two versions of a kernel",
    "",
    "options:",
    "  -h, --help     show this help message and exit",
    "  --version      show program's version number and exit",
    "  -v, --verbose  Enable debug logging"
  ]

def kernelsUsage : List String :=
  [
    "usage: hipster kernels [-h] [--build-dir DIR] [--json] workspace"
  ]

def kernelsBody : List String :=
  [
    "",
    "Scan the build directories and list every kernel region found.",
    "",
    "positional arguments:",
    "  workspace        Workspace root containing the build directories",
    "",
    "options:",
    "  -h, --help       show this help message and exit",
    "  --build-dir DIR  Build directory relative to the workspace (repeatable,",
    "                   default: build)",
    "  --json           Output JSON instead of text"
  ]

def searchUsage : List String :=
  [
    "usage: hipster match [-h] [--build-dir DIR] [--line LINE] [--json]",
    "                     workspace source"
  ]

def searchBody : List String :=
  [
    "",
    "Find every kernel, across all build directories, whose debug info",
    "references the source file. Files are compared by basename.",
    "",
    "With --line, also list the instructions generated for that line.",
    "",
    "positional arguments:",
    "  workspace        Workspace root containing the build directories",
    "  source           Source file (only the basename is compared)",
    "",
    "options:",
    "  -h, --help       show this help message and exit",
    "  --build-dir DIR  Build directory relative to the workspace (repeatable,",
    "                   default: build)",
    "  --line LINE      1-based source line to map (default: 0, kernels only)",
    "  --json           Output JSON instead of text",
    "",
    "examples:",
    "  hipster match . src/vector_add.hip",
    "  hipster match . vector_add.hip --line 42 --build-dir build --build-dir build-old",
    "        "
  ]

def lookupUsage : List String :=
  [
    "usage: hipster lookup [-h] [--build-dir DIR] --asm-line ASM_LINE",
    "                      [--index INDEX] [--json]",
    "                      workspace source"
  ]

def lookupBody : List String :=
  [
    "",
    "Reverse-map a line of the selected kernel's assembly file to source.",
    "",
    "positional arguments:",
    "  workspace            Workspace root containing the build directories",
    "  source               Source file used to select kernels",
    "",
    "options:",
    "  -h, --help           show this help message and exit",
    "  --build-dir DIR      Build directory relative to the workspace (repeatable,",
    "                       default: build)",
    "  --asm-line ASM_LINE  1-based line in the assembly file",
    "  --index INDEX        Position of the kernel in the match list (default: 0,",
    "                       most recent)",
    "  --json               Output JSON instead of text"
  ]

def diffUsage : List String :=
  [
    "usage: hipster diff [-h] [--build-dir DIR] [--left LEFT] [--right RIGHT]",
    "                    [--width WIDTH] [--json]",
    "                    workspace source symbol"
  ]

def diffBody : List String :=
  [
    "",
    "Positionally compare two builds of a kernel found in different",
    "build directories. Versions are numbered most recent first.",
    "",
    "positional arguments:",
    "  workspace        Workspace root containing the build directories",
    "  source           Source file the kernel was compiled from",
    "  symbol           Mangled kernel symbol",
    "",
    "options:",
    "  -h, --help       show this help message and exit",
    "  --build-dir DIR  Build directory relative to the workspace (repeatable,",
    "                   default: build)",
    "  --left LEFT      Left version (default: 0, latest)",
    "  --right RIGHT    Right version (default: 1)",
    "  --width WIDTH    Column width (default: 60)",
    "  --json           Output JSON instead of text",
    "",
    "examples:",
    "  hipster diff . vector_add.hip _Z10vector_addPfS_S_i --build-dir build --build-dir build-old",
    "        "
  ]

end KernelAtlas.Command.Help
