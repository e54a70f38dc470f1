import DdlCatalog.Cli.Command
/-!
The shell completion scripts of the command line, for zsh, fish and PowerShell. Each script
defines a completion function for the shell that calls the program back with its hidden
`__complete` command and turns the candidates and the directive it prints into the shell's own
completions. The scripts depend on the program only through its name.
-/

namespace DdlCatalog.Cli

/-- The zsh completion script of a program, with descriptions. -/
def zshScript (name : String) : String :=
  "\n".intercalate [
    "#compdef " ++ name,
    "compdef _" ++ name ++ " " ++ name,
    "",
    "# zsh completion for " ++ padRight name 36 ++ " -*- shell-script -*-",
    "",
    "__" ++ name ++ "_debug()",
    "\x7b",
    "    local file=\"$BASH_COMP_DEBUG_FILE\"",
    "    if [[ -n $\x7bfile\x7d ]]; then",
    "        echo \"$*\" >> \"$\x7bfile\x7d\"",
    "    fi",
    "\x7d",
    "",
    "_" ++ name ++ "()",
    "\x7b",
    "    local shellCompDirectiveError=1",
    "    local shellCompDirectiveNoSpace=2",
    "    local shellCompDirectiveNoFileComp=4",
    "    local shellCompDirectiveFilterFileExt=8",
    "    local shellCompDirectiveFilterDirs=16",
    "    local shellCompDirectiveKeepOrder=32",
    "",
    "    local lastParam lastChar flagPrefix requestComp out directive comp lastComp noSpace keepOrder",
    "    local -a completions",
    "",
    "    __" ++ name ++ "_debug \"\\n========= starting completion logic ==========\"",
    "    __" ++ name ++ "_debug \"CURRENT: $\x7bCURRENT\x7d, words[*]: $\x7bwords[*]\x7d\"",
    "",
    "    # The user could have moved the cursor backwards on the command-line.",
    "    # We need to trigger completion from the $CURRENT location, so we need",
    "    # to truncate the command-line ($words) up to the $CURRENT location.",
    "    # (We cannot use $CURSOR as its value does not work when a command is an alias.)",
    "    words=(\"$\x7b=words[1,CURRENT]\x7d\")",
    "    __" ++ name ++ "_debug \"Truncated words[*]: $\x7bwords[*]\x7d,\"",
    "",
    "    lastParam=$\x7bwords[-1]\x7d",
    "    lastChar=$\x7blastParam[-1]\x7d",
    "    __" ++ name ++ "_debug \"lastParam: $\x7blastParam\x7d, lastChar: $\x7blastChar\x7d\"",
    "",
    "    # For zsh, when completing a flag with an = (e.g., " ++ name ++ " -n=<TAB>)",
    "    # completions must be prefixed with the flag",
    "    setopt local_options BASH_REMATCH",
    "    if [[ \"$\x7blastParam\x7d\" =~ '-.*=' ]]; then",
    "        # We are dealing with a flag with an =",
    "        flagPrefix=\"-P $\x7bBASH_REMATCH\x7d\"",
    "    fi",
    "",
    "    # Prepare the command to obtain completions",
    "    requestComp=\"$\x7bwords[1]\x7d __complete $\x7bwords[2,-1]\x7d\"",
    "    if [ \"$\x7blastChar\x7d\" = \"\" ]; then",
    "        # If the last parameter is complete (there is a space following it)",
    "        # We add an extra empty parameter so we can indicate this to the go completion code.",
    "        __" ++ name ++ "_debug \"Adding extra empty parameter\"",
    "        requestComp=\"$\x7brequestComp\x7d \\\"\\\"\"",
    "    fi",
    "",
    "    __" ++ name ++ "_debug \"About to call: eval $\x7brequestComp\x7d\"",
    "",
    "    # Use eval to handle any environment variables and such",
    "    out=$(eval $\x7brequestComp\x7d 2>/dev/null)",
    "    __" ++ name ++ "_debug \"completion output: $\x7bout\x7d\"",
    "",
    "    # Extract the directive integer following a : from the last line",
    "    local lastLine",
    "    while IFS='\\n' read -r line; do",
    "        lastLine=$\x7bline\x7d",
    "    done < <(printf \"%s\\n\" \"$\x7bout[@]\x7d\")",
    "    __" ++ name ++ "_debug \"last line: $\x7blastLine\x7d\"",
    "",
    "    if [ \"$\x7blastLine[1]\x7d\" = : ]; then",
    "        directive=$\x7blastLine[2,-1]\x7d",
    "        # Remove the directive including the : and the newline",
    "        local suffix",
    "        (( suffix=$\x7b#lastLine\x7d+2))",
    "        out=$\x7bout[1,-$suffix]\x7d",
    "    else",
    "        # There is no directive specified.  Leave $out as is.",
    "        __" ++ name ++ "_debug \"No directive found.  Setting do default\"",
    "        directive=0",
    "    fi",
    "",
    "    __" ++ name ++ "_debug \"directive: $\x7bdirective\x7d\"",
    "    __" ++ name ++ "_debug \"completions: $\x7bout\x7d\"",
    "    __" ++ name ++ "_debug \"flagPrefix: $\x7bflagPrefix\x7d\"",
    "",
    "    if [ $((directive & shellCompDirectiveError)) -ne 0 ]; then",
    "        __" ++ name ++ "_debug \"Completion received error. Ignoring completions.\"",
    "        return",
    "    fi",
    "",
    "    local activeHelpMarker=\"_activeHelp_ \"",
    "    local endIndex=$\x7b#activeHelpMarker\x7d",
    "    local startIndex=$(($\x7b#activeHelpMarker\x7d+1))",
    "    local hasActiveHelp=0",
    "    while IFS='\\n' read -r comp; do",
    "        # Check if this is an activeHelp statement (i.e., prefixed with $activeHelpMarker)",
    "        if [ \"$\x7bcomp[1,$endIndex]\x7d\" = \"$activeHelpMarker\" ];then",
    "            __" ++ name ++ "_debug \"ActiveHelp found: $comp\"",
    "            comp=\"$\x7bcomp[$startIndex,-1]\x7d\"",
    "            if [ -n \"$comp\" ]; then",
    "                compadd -x \"$\x7bcomp\x7d\"",
    "                __" ++ name ++ "_debug \"ActiveHelp will need delimiter\"",
    "                hasActiveHelp=1",
    "            fi",
    "",
    "            continue",
    "        fi",
    "",
    "        if [ -n \"$comp\" ]; then",
    "            # If requested, completions are returned with a description.",
    "            # The description is preceded by a TAB character.",
    "            # For zsh's _describe, we need to use a : instead of a TAB.",
    "            # We first need to escape any : as part of the completion itself.",
    "            comp=$\x7bcomp//:/\\\\:\x7d",
    "",
    "            local tab=\"$(printf '\\t')\"",
    "            comp=$\x7bcomp//$tab/:\x7d",
    "",
    "            __" ++ name ++ "_debug \"Adding completion: $\x7bcomp\x7d\"",
    "            completions+=$\x7bcomp\x7d",
    "            lastComp=$comp",
    "        fi",
    "    done < <(printf \"%s\\n\" \"$\x7bout[@]\x7d\")",
    "",
    "    # Add a delimiter after the activeHelp statements, but only if:",
    "    # - there are completions following the activeHelp statements, or",
    "    # - file completion will be performed (so there will be choices after the activeHelp)",
    "    if [ $hasActiveHelp -eq 1 ]; then",
    "        if [ $\x7b#completions\x7d -ne 0 ] || [ $((directive & shellCompDirectiveNoFileComp)) -eq 0 ]; then",
    "            __" ++ name ++ "_debug \"Adding activeHelp delimiter\"",
    "            compadd -x \"--\"",
    "            hasActiveHelp=0",
    "        fi",
    "    fi",
    "",
    "    if [ $((directive & shellCompDirectiveNoSpace)) -ne 0 ]; then",
    "        __" ++ name ++ "_debug \"Activating nospace.\"",
    "        noSpace=\"-S ''\"",
    "    fi",
    "",
    "    if [ $((directive & shellCompDirectiveKeepOrder)) -ne 0 ]; then",
    "        __" ++ name ++ "_debug \"Activating keep order.\"",
    "        keepOrder=\"-V\"",
    "    fi",
    "",
    "    if [ $((directive & shellCompDirectiveFilterFileExt)) -ne 0 ]; then",
    "        # File extension filtering",
    "        local filteringCmd",
    "        filteringCmd='_files'",
    "        for filter in $\x7bcompletions[@]\x7d; do",
    "            if [ $\x7bfilter[1]\x7d != '*' ]; then",
    "                # zsh requires a glob pattern to do file filtering",
    "                filter=\"\\*.$filter\"",
    "            fi",
    "            filteringCmd+=\" -g $filter\"",
    "        done",
    "        filteringCmd+=\" $\x7bflagPrefix\x7d\"",
    "",
    "        __" ++ name ++ "_debug \"File filtering command: $filteringCmd\"",
    "        _arguments '*:filename:'\"$filteringCmd\"",
    "    elif [ $((directive & shellCompDirectiveFilterDirs)) -ne 0 ]; then",
    "        # File completion for directories only",
    "        local subdir",
    "        subdir=\"$\x7bcompletions[1]\x7d\"",
    "        if [ -n \"$subdir\" ]; then",
    "            __" ++ name ++ "_debug \"Listing directories in $subdir\"",
    "            pushd \"$\x7bsubdir\x7d\" >/dev/null 2>&1",
    "        else",
    "            __" ++ name ++ "_debug \"Listing directories in .\"",
    "        fi",
    "",
    "        local result",
    "        _arguments '*:dirname:_files -/'\" $\x7bflagPrefix\x7d\"",
    "        result=$?",
    "        if [ -n \"$subdir\" ]; then",
    "            popd >/dev/null 2>&1",
    "        fi",
    "        return $result",
    "    else",
    "        __" ++ name ++ "_debug \"Calling _describe\"",
    "        if eval _describe $keepOrder \"completions\" completions $flagPrefix $noSpace; then",
    "            __" ++ name ++ "_debug \"_describe found some completions\"",
    "",
    "            # Return the success of having called _describe",
    "            return 0",
    "        else",
    "            __" ++ name ++ "_debug \"_describe did not find completions.\"",
    "            __" ++ name ++ "_debug \"Checking if we should do file completion.\"",
    "            if [ $((directive & shellCompDirectiveNoFileComp)) -ne 0 ]; then",
    "                __" ++ name ++ "_debug \"deactivating file completion\"",
    "",
    "                # We must return an error code here to let zsh know that there were no",
    "                # completions found by _describe; this is what will trigger other",
    "                # matching algorithms to attempt to find completions.",
    "                # For example zsh can match letters in the middle of words.",
    "                return 1",
    "            else",
    "                # Perform file completion",
    "                __" ++ name ++ "_debug \"Activating file completion\"",
    "",
    "                # We must return the result of this command, so it must be the",
    "                # last command, or else we must store its result to return it.",
    "                _arguments '*:filename:_files'\" $\x7bflagPrefix\x7d\"",
    "            fi",
    "        fi",
    "    fi",
    "\x7d",
    "",
    "# don't run the completion function when being source-ed or eval-ed",
    "if [ \"$funcstack[1]\" = \"_" ++ name ++ "\" ]; then",
    "    _" ++ name,
    "fi",
    ""]

/-- The fish completion script of a program, with descriptions; `envName` is the program's
name as environment variables spell it. -/
def fishScript (name envName : String) : String :=
  "\n".intercalate [
    "# fish completion for " ++ name ++ "                              -*- shell-script -*-",
    "",
    "function __" ++ name ++ "_debug",
    "    set -l file \"$BASH_COMP_DEBUG_FILE\"",
    "    if test -n \"$file\"",
    "        echo \"$argv\" >> $file",
    "    end",
    "end",
    "",
    "function __" ++ name ++ "_perform_completion",
    "    __" ++ name ++ "_debug \"Starting __" ++ name ++ "_perform_completion\"",
    "",
    "    # Extract all args except the last one",
    "    set -l args (commandline -opc)",
    "    # Extract the last arg and escape it in case it is a space",
    "    set -l lastArg (string escape -- (commandline -ct))",
    "",
    "    __" ++ name ++ "_debug \"args: $args\"",
    "    __" ++ name ++ "_debug \"last arg: $lastArg\"",
    "",
    "    # Disable ActiveHelp which is not supported for fish shell",
    "    set -l requestComp \"" ++ envName ++ "_ACTIVE_HELP=0 $args[1] __complete $args[2..-1] $lastArg\"",
    "",
    "    __" ++ name ++ "_debug \"Calling $requestComp\"",
    "    set -l results (eval $requestComp 2> /dev/null)",
    "",
    "    # Some programs may output extra empty lines after the directive.",
    "    # Let's ignore them or else it will break completion.",
    "    # Ref: https://github.com/spf13/cobra/issues/1279",
    "    for line in $results[-1..1]",
    "        if test (string trim -- $line) = \"\"",
    "            # Found an empty line, remove it",
    "            set results $results[1..-2]",
    "        else",
    "            # Found non-empty line, we have our proper output",
    "            break",
    "        end",
    "    end",
    "",
    "    set -l comps $results[1..-2]",
    "    set -l directiveLine $results[-1]",
    "",
    "    # For Fish, when completing a flag with an = (e.g., <program> -n=<TAB>)",
    "    # completions must be prefixed with the flag",
    "    set -l flagPrefix (string match -r -- '-.*=' \"$lastArg\")",
    "",
    "    __" ++ name ++ "_debug \"Comps: $comps\"",
    "    __" ++ name ++ "_debug \"DirectiveLine: $directiveLine\"",
    "    __" ++ name ++ "_debug \"flagPrefix: $flagPrefix\"",
    "",
    "    for comp in $comps",
    "        printf \"%s%s\\n\" \"$flagPrefix\" \"$comp\"",
    "    end",
    "",
    "    printf \"%s\\n\" \"$directiveLine\"",
    "end",
    "",
    "# this function limits calls to __" ++ name ++ "_perform_completion, by caching the result behind $__" ++ name ++ "_perform_completion_once_result",
    "function __" ++ name ++ "_perform_completion_once",
    "    __" ++ name ++ "_debug \"Starting __" ++ name ++ "_perform_completion_once\"",
    "",
    "    if test -n \"$__" ++ name ++ "_perform_completion_once_result\"",
    "        __" ++ name ++ "_debug \"Seems like a valid result already exists, skipping __" ++ name ++ "_perform_completion\"",
    "        return 0",
    "    end",
    "",
    "    set --global __" ++ name ++ "_perform_completion_once_result (__" ++ name ++ "_perform_completion)",
    "    if test -z \"$__" ++ name ++ "_perform_completion_once_result\"",
    "        __" ++ name ++ "_debug \"No completions, probably due to a failure\"",
    "        return 1",
    "    end",
    "",
    "    __" ++ name ++ "_debug \"Performed completions and set __" ++ name ++ "_perform_completion_once_result\"",
    "    return 0",
    "end",
    "",
    "# this function is used to clear the $__" ++ name ++ "_perform_completion_once_result variable after completions are run",
    "function __" ++ name ++ "_clear_perform_completion_once_result",
    "    __" ++ name ++ "_debug \"\"",
    "    __" ++ name ++ "_debug \"========= clearing previously set __" ++ name ++ "_perform_completion_once_result variable ==========\"",
    "    set --erase __" ++ name ++ "_perform_completion_once_result",
    "    __" ++ name ++ "_debug \"Successfully erased the variable __" ++ name ++ "_perform_completion_once_result\"",
    "end",
    "",
    "function __" ++ name ++ "_requires_order_preservation",
    "    __" ++ name ++ "_debug \"\"",
    "    __" ++ name ++ "_debug \"========= checking if order preservation is required ==========\"",
    "",
    "    __" ++ name ++ "_perform_completion_once",
    "    if test -z \"$__" ++ name ++ "_perform_completion_once_result\"",
    "        __" ++ name ++ "_debug \"Error determining if order preservation is required\"",
    "        return 1",
    "    end",
    "",
    "    set -l directive (string sub --start 2 $__" ++ name ++ "_perform_completion_once_result[-1])",
    "    __" ++ name ++ "_debug \"Directive is: $directive\"",
    "",
    "    set -l shellCompDirectiveKeepOrder 32",
    "    set -l keeporder (math (math --scale 0 $directive / $shellCompDirectiveKeepOrder) % 2)",
    "    __" ++ name ++ "_debug \"Keeporder is: $keeporder\"",
    "",
    "    if test $keeporder -ne 0",
    "        __" ++ name ++ "_debug \"This does require order preservation\"",
    "        return 0",
    "    end",
    "",
    "    __" ++ name ++ "_debug \"This doesn't require order preservation\"",
    "    return 1",
    "end",
    "",
    "",
    "# This function does two things:",
    "# - Obtain the completions and store them in the global __" ++ name ++ "_comp_results",
    "# - Return false if file completion should be performed",
    "function __" ++ name ++ "_prepare_completions",
    "    __" ++ name ++ "_debug \"\"",
    "    __" ++ name ++ "_debug \"========= starting completion logic ==========\"",
    "",
    "    # Start fresh",
    "    set --erase __" ++ name ++ "_comp_results",
    "",
    "    __" ++ name ++ "_perform_completion_once",
    "    __" ++ name ++ "_debug \"Completion results: $__" ++ name ++ "_perform_completion_once_result\"",
    "",
    "    if test -z \"$__" ++ name ++ "_perform_completion_once_result\"",
    "        __" ++ name ++ "_debug \"No completion, probably due to a failure\"",
    "        # Might as well do file completion, in case it helps",
    "        return 1",
    "    end",
    "",
    "    set -l directive (string sub --start 2 $__" ++ name ++ "_perform_completion_once_result[-1])",
    "    set --global __" ++ name ++ "_comp_results $__" ++ name ++ "_perform_completion_once_result[1..-2]",
    "",
    "    __" ++ name ++ "_debug \"Completions are: $__" ++ name ++ "_comp_results\"",
    "    __" ++ name ++ "_debug \"Directive is: $directive\"",
    "",
    "    set -l shellCompDirectiveError 1",
    "    set -l shellCompDirectiveNoSpace 2",
    "    set -l shellCompDirectiveNoFileComp 4",
    "    set -l shellCompDirectiveFilterFileExt 8",
    "    set -l shellCompDirectiveFilterDirs 16",
    "",
    "    if test -z \"$directive\"",
    "        set directive 0",
    "    end",
    "",
    "    set -l compErr (math (math --scale 0 $directive / $shellCompDirectiveError) % 2)",
    "    if test $compErr -eq 1",
    "        __" ++ name ++ "_debug \"Received error directive: aborting.\"",
    "        # Might as well do file completion, in case it helps",
    "        return 1",
    "    end",
    "",
    "    set -l filefilter (math (math --scale 0 $directive / $shellCompDirectiveFilterFileExt) % 2)",
    "    set -l dirfilter (math (math --scale 0 $directive / $shellCompDirectiveFilterDirs) % 2)",
    "    if test $filefilter -eq 1; or test $dirfilter -eq 1",
    "        __" ++ name ++ "_debug \"File extension filtering or directory filtering not supported\"",
    "        # Do full file completion instead",
    "        return 1",
    "    end",
    "",
    "    set -l nospace (math (math --scale 0 $directive / $shellCompDirectiveNoSpace) % 2)",
    "    set -l nofiles (math (math --scale 0 $directive / $shellCompDirectiveNoFileComp) % 2)",
    "",
    "    __" ++ name ++ "_debug \"nospace: $nospace, nofiles: $nofiles\"",
    "",
    "    # If we want to prevent a space, or if file completion is NOT disabled,",
    "    # we need to count the number of valid completions.",
    "    # To do so, we will filter on prefix as the completions we have received",
    "    # may not already be filtered so as to allow fish to match on different",
    "    # criteria than the prefix.",
    "    if test $nospace -ne 0; or test $nofiles -eq 0",
    "        set -l prefix (commandline -t | string escape --style=regex)",
    "        __" ++ name ++ "_debug \"prefix: $prefix\"",
    "",
    "        set -l completions (string match -r -- \"^$prefix.*\" $__" ++ name ++ "_comp_results)",
    "        set --global __" ++ name ++ "_comp_results $completions",
    "        __" ++ name ++ "_debug \"Filtered completions are: $__" ++ name ++ "_comp_results\"",
    "",
    "        # Important not to quote the variable for count to work",
    "        set -l numComps (count $__" ++ name ++ "_comp_results)",
    "        __" ++ name ++ "_debug \"numComps: $numComps\"",
    "",
    "        if test $numComps -eq 1; and test $nospace -ne 0",
    "            # We must first split on \\t to get rid of the descriptions to be",
    "            # able to check what the actual completion will be.",
    "            # We don't need descriptions anyway since there is only a single",
    "            # real completion which the shell will expand immediately.",
    "            set -l split (string split --max 1 \\t $__" ++ name ++ "_comp_results[1])",
    "",
    "            # Fish won't add a space if the completion ends with any",
    "            # of the following characters: @=/:.,",
    "            set -l lastChar (string sub -s -1 -- $split)",
    "            if not string match -r -q \"[@=/:.,]\" -- \"$lastChar\"",
    "                # In other cases, to support the \"nospace\" directive we trick the shell",
    "                # by outputting an extra, longer completion.",
    "                __" ++ name ++ "_debug \"Adding second completion to perform nospace directive\"",
    "                set --global __" ++ name ++ "_comp_results $split[1] $split[1].",
    "                __" ++ name ++ "_debug \"Completions are now: $__" ++ name ++ "_comp_results\"",
    "            end",
    "        end",
    "",
    "        if test $numComps -eq 0; and test $nofiles -eq 0",
    "            # To be consistent with bash and zsh, we only trigger file",
    "            # completion when there are no other completions",
    "            __" ++ name ++ "_debug \"Requesting file completion\"",
    "            return 1",
    "        end",
    "    end",
    "",
    "    return 0",
    "end",
    "",
    "# Since Fish completions are only loaded once the user triggers them, we trigger them ourselves",
    "# so we can properly delete any completions provided by another script.",
    "# Only do this if the program can be found, or else fish may print some errors; besides,",
    "# the existing completions will only be loaded if the program can be found.",
    "if type -q \"" ++ name ++ "\"",
    "    # The space after the program name is essential to trigger completion for the program",
    "    # and not completion of the program name itself.",
    "    # Also, we use '> /dev/null 2>&1' since '&>' is not supported in older versions of fish.",
    "    complete --do-complete \"" ++ name ++ " \" > /dev/null 2>&1",
    "end",
    "",
    "# Remove any pre-existing completions for the program since we will be handling all of them.",
    "complete -c " ++ name ++ " -e",
    "",
    "# this will get called after the two calls below and clear the $__" ++ name ++ "_perform_completion_once_result global",
    "complete -c " ++ name ++ " -n '__" ++ name ++ "_clear_perform_completion_once_result'",
    "# The call to __" ++ name ++ "_prepare_completions will setup __" ++ name ++ "_comp_results",
    "# which provides the program's completion choices.",
    "# If this doesn't require order preservation, we don't use the -k flag",
    "complete -c " ++ name ++ " -n 'not __" ++ name ++ "_requires_order_preservation && __" ++ name ++ "_prepare_completions' -f -a '$__" ++ name ++ "_comp_results'",
    "# otherwise we use the -k flag",
    "complete -k -c " ++ name ++ " -n '__" ++ name ++ "_requires_order_preservation && __" ++ name ++ "_prepare_completions' -f -a '$__" ++ name ++ "_comp_results'",
    ""]

/-- The PowerShell completion script of a program, with descriptions. -/
def powershellScript (name envName : String) : String :=
  "\n".intercalate [
    "# powershell completion for " ++ name ++ "                              -*- shell-script -*-",
    "",
    "function __" ++ name ++ "_debug \x7b",
    "    if ($env:BASH_COMP_DEBUG_FILE) \x7b",
    "        \"$args\" | Out-File -Append -FilePath \"$env:BASH_COMP_DEBUG_FILE\"",
    "    \x7d",
    "\x7d",
    "",
    "filter __" ++ name ++ "_escapeStringWithSpecialChars \x7b",
    "    $_ -replace '\\s|#|@|\\$|;|,|''|\\\x7b|\\\x7d|\\(|\\)|\"|\x60|\\||<|>|&','\x60$&'",
    "\x7d",
    "",
    "[scriptblock]$\x7b__" ++ name ++ "CompleterBlock\x7d = \x7b",
    "    param(",
    "            $WordToComplete,",
    "            $CommandAst,",
    "            $CursorPosition",
    "        )",
    "",
    "    # Get the current command line and convert into a string",
    "    $Command = $CommandAst.CommandElements",
    "    $Command = \"$Command\"",
    "",
    "    __" ++ name ++ "_debug \"\"",
    "    __" ++ name ++ "_debug \"========= starting completion logic ==========\"",
    "    __" ++ name ++ "_debug \"WordToComplete: $WordToComplete Command: $Command CursorPosition: $CursorPosition\"",
    "",
    "    # The user could have moved the cursor backwards on the command-line.",
    "    # We need to trigger completion from the $CursorPosition location, so we need",
    "    # to truncate the command-line ($Command) up to the $CursorPosition location.",
    "    # Make sure the $Command is longer then the $CursorPosition before we truncate.",
    "    # This happens because the $Command does not include the last space.",
    "    if ($Command.Length -gt $CursorPosition) \x7b",
    "        $Command=$Command.Substring(0,$CursorPosition)",
    "    \x7d",
    "    __" ++ name ++ "_debug \"Truncated command: $Command\"",
    "",
    "    $ShellCompDirectiveError=1",
    "    $ShellCompDirectiveNoSpace=2",
    "    $ShellCompDirectiveNoFileComp=4",
    "    $ShellCompDirectiveFilterFileExt=8",
    "    $ShellCompDirectiveFilterDirs=16",
    "    $ShellCompDirectiveKeepOrder=32",
    "",
    "    # Prepare the command to request completions for the program.",
    "    # Split the command at the first space to separate the program and arguments.",
    "    $Program,$Arguments = $Command.Split(\" \",2)",
    "",
    "    $RequestComp=\"$Program __complete $Arguments\"",
    "    __" ++ name ++ "_debug \"RequestComp: $RequestComp\"",
    "",
    "    # we cannot use $WordToComplete because it",
    "    # has the wrong values if the cursor was moved",
    "    # so use the last argument",
    "    if ($WordToComplete -ne \"\" ) \x7b",
    "        $WordToComplete = $Arguments.Split(\" \")[-1]",
    "    \x7d",
    "    __" ++ name ++ "_debug \"New WordToComplete: $WordToComplete\"",
    "",
    "",
    "    # Check for flag with equal sign",
    "    $IsEqualFlag = ($WordToComplete -Like \"--*=*\" )",
    "    if ( $IsEqualFlag ) \x7b",
    "        __" ++ name ++ "_debug \"Completing equal sign flag\"",
    "        # Remove the flag part",
    "        $Flag,$WordToComplete = $WordToComplete.Split(\"=\",2)",
    "    \x7d",
    "",
    "    if ( $WordToComplete -eq \"\" -And ( -Not $IsEqualFlag )) \x7b",
    "        # If the last parameter is complete (there is a space following it)",
    "        # We add an extra empty parameter so we can indicate this to the go method.",
    "        __" ++ name ++ "_debug \"Adding extra empty parameter\"",
    "        # PowerShell 7.2+ changed the way how the arguments are passed to executables,",
    "        # so for pre-7.2 or when Legacy argument passing is enabled we need to use",
    "        # \x60\"\x60\" to pass an empty argument, a \"\" or '' does not work!!!",
    "        if ($PSVersionTable.PsVersion -lt [version]'7.2.0' -or",
    "            ($PSVersionTable.PsVersion -lt [version]'7.3.0' -and -not [ExperimentalFeature]::IsEnabled(\"PSNativeCommandArgumentPassing\")) -or",
    "            (($PSVersionTable.PsVersion -ge [version]'7.3.0' -or [ExperimentalFeature]::IsEnabled(\"PSNativeCommandArgumentPassing\")) -and",
    "              $PSNativeCommandArgumentPassing -eq 'Legacy')) \x7b",
    "             $RequestComp=\"$RequestComp\" + ' \x60\"\x60\"'",
    "        \x7d else \x7b",
    "             $RequestComp=\"$RequestComp\" + ' \"\"'",
    "        \x7d",
    "    \x7d",
    "",
    "    __" ++ name ++ "_debug \"Calling $RequestComp\"",
    "    # First disable ActiveHelp which is not supported for Powershell",
    "    $\x7benv:" ++ envName ++ "_ACTIVE_HELP\x7d=0",
    "",
    "    #call the command store the output in $out and redirect stderr and stdout to null",
    "    # $Out is an array contains each line per element",
    "    Invoke-Expression -OutVariable out \"$RequestComp\" 2>&1 | Out-Null",
    "",
    "    # get directive from last line",
    "    [int]$Directive = $Out[-1].TrimStart(':')",
    "    if ($Directive -eq \"\") \x7b",
    "        # There is no directive specified",
    "        $Directive = 0",
    "    \x7d",
    "    __" ++ name ++ "_debug \"The completion directive is: $Directive\"",
    "",
    "    # remove directive (last element) from out",
    "    $Out = $Out | Where-Object \x7b $_ -ne $Out[-1] \x7d",
    "    __" ++ name ++ "_debug \"The completions are: $Out\"",
    "",
    "    if (($Directive -band $ShellCompDirectiveError) -ne 0 ) \x7b",
    "        # Error code.  No completion.",
    "        __" ++ name ++ "_debug \"Received error from custom completion go code\"",
    "        return",
    "    \x7d",
    "",
    "    $Longest = 0",
    "    [Array]$Values = $Out | ForEach-Object \x7b",
    "        #Split the output in name and description",
    "        $Name, $Description = $_.Split(\"\x60t\",2)",
    "        __" ++ name ++ "_debug \"Name: $Name Description: $Description\"",
    "",
    "        # Look for the longest completion so that we can format things nicely",
    "        if ($Longest -lt $Name.Length) \x7b",
    "            $Longest = $Name.Length",
    "        \x7d",
    "",
    "        # Set the description to a one space string if there is none set.",
    "        # This is needed because the CompletionResult does not accept an empty string as argument",
    "        if (-Not $Description) \x7b",
    "            $Description = \" \"",
    "        \x7d",
    "        New-Object -TypeName PSCustomObject -Property @\x7b",
    "            Name = \"$Name\"",
    "            Description = \"$Description\"",
    "        \x7d",
    "    \x7d",
    "",
    "",
    "    $Space = \" \"",
    "    if (($Directive -band $ShellCompDirectiveNoSpace) -ne 0 ) \x7b",
    "        # remove the space here",
    "        __" ++ name ++ "_debug \"ShellCompDirectiveNoSpace is called\"",
    "        $Space = \"\"",
    "    \x7d",
    "",
    "    if ((($Directive -band $ShellCompDirectiveFilterFileExt) -ne 0 ) -or",
    "       (($Directive -band $ShellCompDirectiveFilterDirs) -ne 0 ))  \x7b",
    "        __" ++ name ++ "_debug \"ShellCompDirectiveFilterFileExt ShellCompDirectiveFilterDirs are not supported\"",
    "",
    "        # return here to prevent the completion of the extensions",
    "        return",
    "    \x7d",
    "",
    "    $Values = $Values | Where-Object \x7b",
    "        # filter the result",
    "        $_.Name -like \"$WordToComplete*\"",
    "",
    "        # Join the flag back if we have an equal sign flag",
    "        if ( $IsEqualFlag ) \x7b",
    "            __" ++ name ++ "_debug \"Join the equal sign flag back to the completion value\"",
    "            $_.Name = $Flag + \"=\" + $_.Name",
    "        \x7d",
    "    \x7d",
    "",
    "    # we sort the values in ascending order by name if keep order isn't passed",
    "    if (($Directive -band $ShellCompDirectiveKeepOrder) -eq 0 ) \x7b",
    "        $Values = $Values | Sort-Object -Property Name",
    "    \x7d",
    "",
    "    if (($Directive -band $ShellCompDirectiveNoFileComp) -ne 0 ) \x7b",
    "        __" ++ name ++ "_debug \"ShellCompDirectiveNoFileComp is called\"",
    "",
    "        if ($Values.Length -eq 0) \x7b",
    "            # Just print an empty string here so the",
    "            # shell does not start to complete paths.",
    "            # We cannot use CompletionResult here because",
    "            # it does not accept an empty string as argument.",
    "            \"\"",
    "            return",
    "        \x7d",
    "    \x7d",
    "",
    "    # Get the current mode",
    "    $Mode = (Get-PSReadLineKeyHandler | Where-Object \x7b$_.Key -eq \"Tab\" \x7d).Function",
    "    __" ++ name ++ "_debug \"Mode: $Mode\"",
    "",
    "    $Values | ForEach-Object \x7b",
    "",
    "        # store temporary because switch will overwrite $_",
    "        $comp = $_",
    "",
    "        # PowerShell supports three different completion modes",
    "        # - TabCompleteNext (default windows style - on each key press the next option is displayed)",
    "        # - Complete (works like bash)",
    "        # - MenuComplete (works like zsh)",
    "        # You set the mode with Set-PSReadLineKeyHandler -Key Tab -Function <mode>",
    "",
    "        # CompletionResult Arguments:",
    "        # 1) CompletionText text to be used as the auto completion result",
    "        # 2) ListItemText   text to be displayed in the suggestion list",
    "        # 3) ResultType     type of completion result",
    "        # 4) ToolTip        text for the tooltip with details about the object",
    "",
    "        switch ($Mode) \x7b",
    "",
    "            # bash like",
    "            \"Complete\" \x7b",
    "",
    "                if ($Values.Length -eq 1) \x7b",
    "                    __" ++ name ++ "_debug \"Only one completion left\"",
    "",
    "                    # insert space after value",
    "                    $CompletionText = $($comp.Name | __" ++ name ++ "_escapeStringWithSpecialChars) + $Space",
    "                    if ($ExecutionContext.SessionState.LanguageMode -eq \"FullLanguage\")\x7b",
    "                        [System.Management.Automation.CompletionResult]::new($CompletionText, \"$($comp.Name)\", 'ParameterValue', \"$($comp.Description)\")",
    "                    \x7d else \x7b",
    "                        $CompletionText",
    "                    \x7d",
    "",
    "                \x7d else \x7b",
    "                    # Add the proper number of spaces to align the descriptions",
    "                    while($comp.Name.Length -lt $Longest) \x7b",
    "                        $comp.Name = $comp.Name + \" \"",
    "                    \x7d",
    "",
    "                    # Check for empty description and only add parentheses if needed",
    "                    if ($($comp.Description) -eq \" \" ) \x7b",
    "                        $Description = \"\"",
    "                    \x7d else \x7b",
    "                        $Description = \"  ($($comp.Description))\"",
    "                    \x7d",
    "",
    "                    $CompletionText = \"$($comp.Name)$Description\"",
    "                    if ($ExecutionContext.SessionState.LanguageMode -eq \"FullLanguage\")\x7b",
    "                        [System.Management.Automation.CompletionResult]::new($CompletionText, \"$($comp.Name)$Description\", 'ParameterValue', \"$($comp.Description)\")",
    "                    \x7d else \x7b",
    "                        $CompletionText",
    "                    \x7d",
    "                \x7d",
    "             \x7d",
    "",
    "            # zsh like",
    "            \"MenuComplete\" \x7b",
    "                # insert space after value",
    "                # MenuComplete will automatically show the ToolTip of",
    "                # the highlighted value at the bottom of the suggestions.",
    "",
    "                $CompletionText = $($comp.Name | __" ++ name ++ "_escapeStringWithSpecialChars) + $Space",
    "                if ($ExecutionContext.SessionState.LanguageMode -eq \"FullLanguage\")\x7b",
    "                    [System.Management.Automation.CompletionResult]::new($CompletionText, \"$($comp.Name)\", 'ParameterValue', \"$($comp.Description)\")",
    "                \x7d else \x7b",
    "                    $CompletionText",
    "                \x7d",
    "            \x7d",
    "",
    "            # TabCompleteNext and in case we get something unknown",
    "            Default \x7b",
    "                # Like MenuComplete but we don't want to add a space here because",
    "                # the user need to press space anyway to get the completion.",
    "                # Description will not be shown because that's not possible with TabCompleteNext",
    "",
    "                $CompletionText = $($comp.Name | __" ++ name ++ "_escapeStringWithSpecialChars)",
    "                if ($ExecutionContext.SessionState.LanguageMode -eq \"FullLanguage\")\x7b",
    "                    [System.Management.Automation.CompletionResult]::new($CompletionText, \"$($comp.Name)\", 'ParameterValue', \"$($comp.Description)\")",
    "                \x7d else \x7b",
    "                    $CompletionText",
    "                \x7d",
    "            \x7d",
    "        \x7d",
    "",
    "    \x7d",
    "\x7d",
    "",
    "Register-ArgumentCompleter -CommandName '" ++ name ++ "' -ScriptBlock $\x7b__" ++ name ++ "CompleterBlock\x7d",
    ""]

/-- The fixed part of the bash completion script of a program: the functions that walk the words typed so far and answer from the tables of the command being completed. -/
def bashPreamble (name envName : String) : String :=
  "\n".intercalate [
    "# bash completion for " ++ padRight name 36 ++ " -*- shell-script -*-",
    "",
    "__" ++ name ++ "_debug()",
    "\x7b",
    "    if [[ -n $\x7bBASH_COMP_DEBUG_FILE:-\x7d ]]; then",
    "        echo \"$*\" >> \"$\x7bBASH_COMP_DEBUG_FILE\x7d\"",
    "    fi",
    "\x7d",
    "",
    "# Homebrew on Macs have version 1.3 of bash-completion which doesn't include",
    "# _init_completion. This is a very minimal version of that function.",
    "__" ++ name ++ "_init_completion()",
    "\x7b",
    "    COMPREPLY=()",
    "    _get_comp_words_by_ref \"$@\" cur prev words cword",
    "\x7d",
    "",
    "__" ++ name ++ "_index_of_word()",
    "\x7b",
    "    local w word=$1",
    "    shift",
    "    index=0",
    "    for w in \"$@\"; do",
    "        [[ $w = \"$word\" ]] && return",
    "        index=$((index+1))",
    "    done",
    "    index=-1",
    "\x7d",
    "",
    "__" ++ name ++ "_contains_word()",
    "\x7b",
    "    local w word=$1; shift",
    "    for w in \"$@\"; do",
    "        [[ $w = \"$word\" ]] && return",
    "    done",
    "    return 1",
    "\x7d",
    "",
    "__" ++ name ++ "_handle_go_custom_completion()",
    "\x7b",
    "    __" ++ name ++ "_debug \"$\x7bFUNCNAME[0]\x7d: cur is $\x7bcur\x7d, words[*] is $\x7bwords[*]\x7d, #words[@] is $\x7b#words[@]\x7d\"",
    "",
    "    local shellCompDirectiveError=1",
    "    local shellCompDirectiveNoSpace=2",
    "    local shellCompDirectiveNoFileComp=4",
    "    local shellCompDirectiveFilterFileExt=8",
    "    local shellCompDirectiveFilterDirs=16",
    "",
    "    local out requestComp lastParam lastChar comp directive args",
    "",
    "    # Prepare the command to request completions for the program.",
    "    # Calling $\x7bwords[0]\x7d instead of directly " ++ name ++ " allows handling aliases",
    "    args=(\"$\x7bwords[@]:1\x7d\")",
    "    # Disable ActiveHelp which is not supported for bash completion v1",
    "    requestComp=\"" ++ envName ++ "_ACTIVE_HELP=0 $\x7bwords[0]\x7d __completeNoDesc $\x7bargs[*]\x7d\"",
    "",
    "    lastParam=$\x7bwords[$(($\x7b#words[@]\x7d-1))]\x7d",
    "    lastChar=$\x7blastParam:$(($\x7b#lastParam\x7d-1)):1\x7d",
    "    __" ++ name ++ "_debug \"$\x7bFUNCNAME[0]\x7d: lastParam $\x7blastParam\x7d, lastChar $\x7blastChar\x7d\"",
    "",
    "    if [ -z \"$\x7bcur\x7d\" ] && [ \"$\x7blastChar\x7d\" != \"=\" ]; then",
    "        # If the last parameter is complete (there is a space following it)",
    "        # We add an extra empty parameter so we can indicate this to the go method.",
    "        __" ++ name ++ "_debug \"$\x7bFUNCNAME[0]\x7d: Adding extra empty parameter\"",
    "        requestComp=\"$\x7brequestComp\x7d \\\"\\\"\"",
    "    fi",
    "",
    "    __" ++ name ++ "_debug \"$\x7bFUNCNAME[0]\x7d: calling $\x7brequestComp\x7d\"",
    "    # Use eval to handle any environment variables and such",
    "    out=$(eval \"$\x7brequestComp\x7d\" 2>/dev/null)",
    "",
    "    # Extract the directive integer at the very end of the output following a colon (:)",
    "    directive=$\x7bout##*:\x7d",
    "    # Remove the directive",
    "    out=$\x7bout%%:*\x7d",
    "    if [ \"$\x7bdirective\x7d\" = \"$\x7bout\x7d\" ]; then",
    "        # There is not directive specified",
    "        directive=0",
    "    fi",
    "    __" ++ name ++ "_debug \"$\x7bFUNCNAME[0]\x7d: the completion directive is: $\x7bdirective\x7d\"",
    "    __" ++ name ++ "_debug \"$\x7bFUNCNAME[0]\x7d: the completions are: $\x7bout\x7d\"",
    "",
    "    if [ $((directive & shellCompDirectiveError)) -ne 0 ]; then",
    "        # Error code.  No completion.",
    "        __" ++ name ++ "_debug \"$\x7bFUNCNAME[0]\x7d: received error from custom completion go code\"",
    "        return",
    "    else",
    "        if [ $((directive & shellCompDirectiveNoSpace)) -ne 0 ]; then",
    "            if [[ $(type -t compopt) = \"builtin\" ]]; then",
    "                __" ++ name ++ "_debug \"$\x7bFUNCNAME[0]\x7d: activating no space\"",
    "                compopt -o nospace",
    "            fi",
    "        fi",
    "        if [ $((directive & shellCompDirectiveNoFileComp)) -ne 0 ]; then",
    "            if [[ $(type -t compopt) = \"builtin\" ]]; then",
    "                __" ++ name ++ "_debug \"$\x7bFUNCNAME[0]\x7d: activating no file completion\"",
    "                compopt +o default",
    "            fi",
    "        fi",
    "    fi",
    "",
    "    if [ $((directive & shellCompDirectiveFilterFileExt)) -ne 0 ]; then",
    "        # File extension filtering",
    "        local fullFilter filter filteringCmd",
    "        # Do not use quotes around the $out variable or else newline",
    "        # characters will be kept.",
    "        for filter in $\x7bout\x7d; do",
    "            fullFilter+=\"$filter|\"",
    "        done",
    "",
    "        filteringCmd=\"_filedir $fullFilter\"",
    "        __" ++ name ++ "_debug \"File filtering command: $filteringCmd\"",
    "        $filteringCmd",
    "    elif [ $((directive & shellCompDirectiveFilterDirs)) -ne 0 ]; then",
    "        # File completion for directories only",
    "        local subdir",
    "        # Use printf to strip any trailing newline",
    "        subdir=$(printf \"%s\" \"$\x7bout\x7d\")",
    "        if [ -n \"$subdir\" ]; then",
    "            __" ++ name ++ "_debug \"Listing directories in $subdir\"",
    "            __" ++ name ++ "_handle_subdirs_in_dir_flag \"$subdir\"",
    "        else",
    "            __" ++ name ++ "_debug \"Listing directories in .\"",
    "            _filedir -d",
    "        fi",
    "    else",
    "        while IFS='' read -r comp; do",
    "            COMPREPLY+=(\"$comp\")",
    "        done < <(compgen -W \"$\x7bout\x7d\" -- \"$cur\")",
    "    fi",
    "\x7d",
    "",
    "__" ++ name ++ "_handle_reply()",
    "\x7b",
    "    __" ++ name ++ "_debug \"$\x7bFUNCNAME[0]\x7d\"",
    "    local comp",
    "    case $cur in",
    "        -*)",
    "            if [[ $(type -t compopt) = \"builtin\" ]]; then",
    "                compopt -o nospace",
    "            fi",
    "            local allflags",
    "            if [ $\x7b#must_have_one_flag[@]\x7d -ne 0 ]; then",
    "                allflags=(\"$\x7bmust_have_one_flag[@]\x7d\")",
    "            else",
    "                allflags=(\"$\x7bflags[*]\x7d $\x7btwo_word_flags[*]\x7d\")",
    "            fi",
    "            while IFS='' read -r comp; do",
    "                COMPREPLY+=(\"$comp\")",
    "            done < <(compgen -W \"$\x7ballflags[*]\x7d\" -- \"$cur\")",
    "            if [[ $(type -t compopt) = \"builtin\" ]]; then",
    "                [[ \"$\x7bCOMPREPLY[0]\x7d\" == *= ]] || compopt +o nospace",
    "            fi",
    "",
    "            # complete after --flag=abc",
    "            if [[ $cur == *=* ]]; then",
    "                if [[ $(type -t compopt) = \"builtin\" ]]; then",
    "                    compopt +o nospace",
    "                fi",
    "",
    "                local index flag",
    "                flag=\"$\x7bcur%%=*\x7d\"",
    "                __" ++ name ++ "_index_of_word \"$\x7bflag\x7d\" \"$\x7bflags_with_completion[@]\x7d\"",
    "                COMPREPLY=()",
    "                if [[ $\x7bindex\x7d -ge 0 ]]; then",
    "                    PREFIX=\"\"",
    "                    cur=\"$\x7bcur#*=\x7d\"",
    "                    $\x7bflags_completion[$\x7bindex\x7d]\x7d",
    "                    if [ -n \"$\x7bZSH_VERSION:-\x7d\" ]; then",
    "                        # zsh completion needs --flag= prefix",
    "                        eval \"COMPREPLY=( \\\"\\$\x7bCOMPREPLY[@]/#/$\x7bflag\x7d=\x7d\\\" )\"",
    "                    fi",
    "                fi",
    "            fi",
    "",
    "            if [[ -z \"$\x7bflag_parsing_disabled\x7d\" ]]; then",
    "                # If flag parsing is enabled, we have completed the flags and can return.",
    "                # If flag parsing is disabled, we may not know all (or any) of the flags, so we fallthrough",
    "                # to possibly call handle_go_custom_completion.",
    "                return 0;",
    "            fi",
    "            ;;",
    "    esac",
    "",
    "    # check if we are handling a flag with special work handling",
    "    local index",
    "    __" ++ name ++ "_index_of_word \"$\x7bprev\x7d\" \"$\x7bflags_with_completion[@]\x7d\"",
    "    if [[ $\x7bindex\x7d -ge 0 ]]; then",
    "        $\x7bflags_completion[$\x7bindex\x7d]\x7d",
    "        return",
    "    fi",
    "",
    "    # we are parsing a flag and don't have a special handler, no completion",
    "    if [[ $\x7bcur\x7d != \"$\x7bwords[cword]\x7d\" ]]; then",
    "        return",
    "    fi",
    "",
    "    local completions",
    "    completions=(\"$\x7bcommands[@]\x7d\")",
    "    if [[ $\x7b#must_have_one_noun[@]\x7d -ne 0 ]]; then",
    "        completions+=(\"$\x7bmust_have_one_noun[@]\x7d\")",
    "    elif [[ -n \"$\x7bhas_completion_function\x7d\" ]]; then",
    "        # if a go completion function is provided, defer to that function",
    "        __" ++ name ++ "_handle_go_custom_completion",
    "    fi",
    "    if [[ $\x7b#must_have_one_flag[@]\x7d -ne 0 ]]; then",
    "        completions+=(\"$\x7bmust_have_one_flag[@]\x7d\")",
    "    fi",
    "    while IFS='' read -r comp; do",
    "        COMPREPLY+=(\"$comp\")",
    "    done < <(compgen -W \"$\x7bcompletions[*]\x7d\" -- \"$cur\")",
    "",
    "    if [[ $\x7b#COMPREPLY[@]\x7d -eq 0 && $\x7b#noun_aliases[@]\x7d -gt 0 && $\x7b#must_have_one_noun[@]\x7d -ne 0 ]]; then",
    "        while IFS='' read -r comp; do",
    "            COMPREPLY+=(\"$comp\")",
    "        done < <(compgen -W \"$\x7bnoun_aliases[*]\x7d\" -- \"$cur\")",
    "    fi",
    "",
    "    if [[ $\x7b#COMPREPLY[@]\x7d -eq 0 ]]; then",
    "        if declare -F __" ++ name ++ "_custom_func >/dev/null; then",
    "            # try command name qualified custom func",
    "            __" ++ name ++ "_custom_func",
    "        else",
    "            # otherwise fall back to unqualified for compatibility",
    "            declare -F __custom_func >/dev/null && __custom_func",
    "        fi",
    "    fi",
    "",
    "    # available in bash-completion >= 2, not always present on macOS",
    "    if declare -F __ltrim_colon_completions >/dev/null; then",
    "        __ltrim_colon_completions \"$cur\"",
    "    fi",
    "",
    "    # If there is only 1 completion and it is a flag with an = it will be completed",
    "    # but we don't want a space after the =",
    "    if [[ \"$\x7b#COMPREPLY[@]\x7d\" -eq \"1\" ]] && [[ $(type -t compopt) = \"builtin\" ]] && [[ \"$\x7bCOMPREPLY[0]\x7d\" == --*= ]]; then",
    "       compopt -o nospace",
    "    fi",
    "\x7d",
    "",
    "# The arguments should be in the form \"ext1|ext2|extn\"",
    "__" ++ name ++ "_handle_filename_extension_flag()",
    "\x7b",
    "    local ext=\"$1\"",
    "    _filedir \"@($\x7bext\x7d)\"",
    "\x7d",
    "",
    "__" ++ name ++ "_handle_subdirs_in_dir_flag()",
    "\x7b",
    "    local dir=\"$1\"",
    "    pushd \"$\x7bdir\x7d\" >/dev/null 2>&1 && _filedir -d && popd >/dev/null 2>&1 || return",
    "\x7d",
    "",
    "__" ++ name ++ "_handle_flag()",
    "\x7b",
    "    __" ++ name ++ "_debug \"$\x7bFUNCNAME[0]\x7d: c is $c words[c] is $\x7bwords[c]\x7d\"",
    "",
    "    # if a command required a flag, and we found it, unset must_have_one_flag()",
    "    local flagname=$\x7bwords[c]\x7d",
    "    local flagvalue=\"\"",
    "    # if the word contained an =",
    "    if [[ $\x7bwords[c]\x7d == *\"=\"* ]]; then",
    "        flagvalue=$\x7bflagname#*=\x7d # take in as flagvalue after the =",
    "        flagname=$\x7bflagname%%=*\x7d # strip everything after the =",
    "        flagname=\"$\x7bflagname\x7d=\" # but put the = back",
    "    fi",
    "    __" ++ name ++ "_debug \"$\x7bFUNCNAME[0]\x7d: looking for $\x7bflagname\x7d\"",
    "    if __" ++ name ++ "_contains_word \"$\x7bflagname\x7d\" \"$\x7bmust_have_one_flag[@]\x7d\"; then",
    "        must_have_one_flag=()",
    "    fi",
    "",
    "    # if you set a flag which only applies to this command, don't show subcommands",
    "    if __" ++ name ++ "_contains_word \"$\x7bflagname\x7d\" \"$\x7blocal_nonpersistent_flags[@]\x7d\"; then",
    "      commands=()",
    "    fi",
    "",
    "    # keep flag value with flagname as flaghash",
    "    # flaghash variable is an associative array which is only supported in bash > 3.",
    "    if [[ -z \"$\x7bBASH_VERSION:-\x7d\" || \"$\x7bBASH_VERSINFO[0]:-\x7d\" -gt 3 ]]; then",
    "        if [ -n \"$\x7bflagvalue\x7d\" ] ; then",
    "            flaghash[$\x7bflagname\x7d]=$\x7bflagvalue\x7d",
    "        elif [ -n \"$\x7bwords[ $((c+1)) ]\x7d\" ] ; then",
    "            flaghash[$\x7bflagname\x7d]=$\x7bwords[ $((c+1)) ]\x7d",
    "        else",
    "            flaghash[$\x7bflagname\x7d]=\"true\" # pad \"true\" for bool flag",
    "        fi",
    "    fi",
    "",
    "    # skip the argument to a two word flag",
    "    if [[ $\x7bwords[c]\x7d != *\"=\"* ]] && __" ++ name ++ "_contains_word \"$\x7bwords[c]\x7d\" \"$\x7btwo_word_flags[@]\x7d\"; then",
    "        __" ++ name ++ "_debug \"$\x7bFUNCNAME[0]\x7d: found a flag $\x7bwords[c]\x7d, skip the next argument\"",
    "        c=$((c+1))",
    "        # if we are looking for a flags value, don't show commands",
    "        if [[ $c -eq $cword ]]; then",
    "            commands=()",
    "        fi",
    "    fi",
    "",
    "    c=$((c+1))",
    "",
    "\x7d",
    "",
    "__" ++ name ++ "_handle_noun()",
    "\x7b",
    "    __" ++ name ++ "_debug \"$\x7bFUNCNAME[0]\x7d: c is $c words[c] is $\x7bwords[c]\x7d\"",
    "",
    "    if __" ++ name ++ "_contains_word \"$\x7bwords[c]\x7d\" \"$\x7bmust_have_one_noun[@]\x7d\"; then",
    "        must_have_one_noun=()",
    "    elif __" ++ name ++ "_contains_word \"$\x7bwords[c]\x7d\" \"$\x7bnoun_aliases[@]\x7d\"; then",
    "        must_have_one_noun=()",
    "    fi",
    "",
    "    nouns+=(\"$\x7bwords[c]\x7d\")",
    "    c=$((c+1))",
    "\x7d",
    "",
    "__" ++ name ++ "_handle_command()",
    "\x7b",
    "    __" ++ name ++ "_debug \"$\x7bFUNCNAME[0]\x7d: c is $c words[c] is $\x7bwords[c]\x7d\"",
    "",
    "    local next_command",
    "    if [[ -n $\x7blast_command\x7d ]]; then",
    "        next_command=\"_$\x7blast_command\x7d_$\x7bwords[c]//:/__\x7d\"",
    "    else",
    "        if [[ $c -eq 0 ]]; then",
    "            next_command=\"_" ++ name ++ "_root_command\"",
    "        else",
    "            next_command=\"_$\x7bwords[c]//:/__\x7d\"",
    "        fi",
    "    fi",
    "    c=$((c+1))",
    "    __" ++ name ++ "_debug \"$\x7bFUNCNAME[0]\x7d: looking for $\x7bnext_command\x7d\"",
    "    declare -F \"$next_command\" >/dev/null && $next_command",
    "\x7d",
    "",
    "__" ++ name ++ "_handle_word()",
    "\x7b",
    "    if [[ $c -ge $cword ]]; then",
    "        __" ++ name ++ "_handle_reply",
    "        return",
    "    fi",
    "    __" ++ name ++ "_debug \"$\x7bFUNCNAME[0]\x7d: c is $c words[c] is $\x7bwords[c]\x7d\"",
    "    if [[ \"$\x7bwords[c]\x7d\" == -* ]]; then",
    "        __" ++ name ++ "_handle_flag",
    "    elif __" ++ name ++ "_contains_word \"$\x7bwords[c]\x7d\" \"$\x7bcommands[@]\x7d\"; then",
    "        __" ++ name ++ "_handle_command",
    "    elif [[ $c -eq 0 ]]; then",
    "        __" ++ name ++ "_handle_command",
    "    elif __" ++ name ++ "_contains_word \"$\x7bwords[c]\x7d\" \"$\x7bcommand_aliases[@]\x7d\"; then",
    "        # aliashash variable is an associative array which is only supported in bash > 3.",
    "        if [[ -z \"$\x7bBASH_VERSION:-\x7d\" || \"$\x7bBASH_VERSINFO[0]:-\x7d\" -gt 3 ]]; then",
    "            words[c]=$\x7baliashash[$\x7bwords[c]\x7d]\x7d",
    "            __" ++ name ++ "_handle_command",
    "        else",
    "            __" ++ name ++ "_handle_noun",
    "        fi",
    "    else",
    "        __" ++ name ++ "_handle_noun",
    "    fi",
    "    __" ++ name ++ "_handle_word",
    "\x7d",
    "",
    ""]

/-- The end of the bash completion script: the entry function and its registration. -/
def bashPostscript (name : String) : String :=
  "\n".intercalate [
    "__start_" ++ name ++ "()",
    "\x7b",
    "    local cur prev words cword split",
    "    declare -A flaghash 2>/dev/null || :",
    "    declare -A aliashash 2>/dev/null || :",
    "    if declare -F _init_completion >/dev/null 2>&1; then",
    "        _init_completion -s || return",
    "    else",
    "        __" ++ name ++ "_init_completion -n \"=\" || return",
    "    fi",
    "",
    "    local c=0",
    "    local flag_parsing_disabled=",
    "    local flags=()",
    "    local two_word_flags=()",
    "    local local_nonpersistent_flags=()",
    "    local flags_with_completion=()",
    "    local flags_completion=()",
    "    local commands=(\"" ++ name ++ "\")",
    "    local command_aliases=()",
    "    local must_have_one_flag=()",
    "    local must_have_one_noun=()",
    "    local has_completion_function=\"\"",
    "    local last_command=\"\"",
    "    local nouns=()",
    "    local noun_aliases=()",
    "",
    "    __" ++ name ++ "_handle_word",
    "\x7d",
    "",
    "if [[ $(type -t compopt) = \"builtin\" ]]; then",
    "    complete -o default -F __start_" ++ name ++ " " ++ name,
    "else",
    "    complete -o default -o nospace -F __start_" ++ name ++ " " ++ name,
    "fi",
    "",
    "# ex: ts=4 sw=4 et filetype=sh",
    ""]


/-- The flags whose values the program itself offers: completion asks it for them. -/
def flagsWithCandidates : List String := ["output", "profile", "server-version"]

/-- The lines that enter one flag into the bash completion tables of a command. A flag that
takes a value is also a two-word flag; `own` flags of the command also stop subcommand
completion once given. -/
def bashFlagLines (name : String) (own : Bool) (f : FlagSpec) : List String :=
  let handler := fun (form : String) =>
    if flagsWithCandidates.contains f.name then
      ["    flags_with_completion+=(" ++ Text.quote form ++ ")",
       "    flags_completion+=(" ++ Text.quote ("__" ++ name ++ "_handle_go_custom_completion") ++ ")"]
    else []
  let long := "--" ++ f.name
  let longLines := match f.kind with
    | .switch => ["    flags+=(\"" ++ long ++ "\")"]
    | .text => ["    flags+=(\"" ++ long ++ "=\")", "    two_word_flags+=(\"" ++ long ++ "\")"]
  let shortLines := match f.short with
    | none => []
    | some c =>
      let short := "-" ++ c.toString
      (match f.kind with
        | .switch => ["    flags+=(\"" ++ short ++ "\")"]
        | .text => ["    two_word_flags+=(\"" ++ short ++ "\")"]) ++ handler short
  let ownLines := if !own then [] else
    ["    local_nonpersistent_flags+=(\"" ++ long ++ "\")"] ++
    (if f.kind == .text then ["    local_nonpersistent_flags+=(\"" ++ long ++ "=\")"] else []) ++
    (match f.short with
      | some c => ["    local_nonpersistent_flags+=(\"-" ++ c.toString ++ "\")"]
      | none => [])
  longLines ++ handler long ++ shortLines ++ ownLines

/-- The bash completion tables of one command: its subcommands, its flags and the flags it
inherits, and its fixed arguments. Of the help flags only that of `completion`, the command
writing the script, is listed. -/
def bashCommandTables (name : String) (c : Command) : String :=
  let path := c.path.replace " " "_"
  let function := if c.verb == .root then "_" ++ path ++ "_root_command" else "_" ++ path
  let subs := (c.children.foldr insertCommand []).filter fun k => k.isAvailable || k.verb == .help
  let own := sortByName (c.ownFlags ++ (if c.verb == .completion then [c.helpFlag] else []))
  let nouns := (c.validArgs.toArray.qsort (· < ·)).toList
  "\n".intercalate (
  [function ++ "()", "\x7b", "    last_command=" ++ Text.quote path, "", "    command_aliases=()", "",
   "    commands=()"] ++
  subs.map (fun k => "    commands+=(" ++ Text.quote k.name ++ ")") ++
  ["", "    flags=()", "    two_word_flags=()", "    local_nonpersistent_flags=()",
   "    flags_with_completion=()", "    flags_completion=()", ""] ++
  own.flatMap (bashFlagLines name (c.verb != .root)) ++
  (sortByName c.inherited).flatMap (bashFlagLines name false) ++
  ["", "    must_have_one_flag=()", "    must_have_one_noun=()"] ++
  nouns.map (fun n => "    must_have_one_noun+=(" ++ Text.quote n ++ ")") ++
  (if c.verb == .help then ["    has_completion_function=1"] else []) ++
  ["    noun_aliases=()", "\x7d", ""]) ++ "\n"

/-- The bash completion script of the program: the fixed functions, the tables of every listed
subcommand and of the root, and the entry function. -/
def bashScript : String :=
  let subs := (rootCommand.children.foldr insertCommand []).filter fun k => k.isAvailable || k.verb == .help
  let tables := (subs ++ [rootCommand]).map (bashCommandTables programName)
  bashPreamble programName programName.toUpper ++ String.join tables ++ bashPostscript programName

/-- The completion script for a shell named by `completion`, if it is one of those with a
script here. -/
def completionScript (shell : String) : Option String :=
  let envName := programName.toUpper
  match shell with
  | "bash" => some bashScript
  | "zsh" => some (zshScript programName)
  | "fish" => some (fishScript programName envName)
  | "powershell" => some (powershellScript programName envName)
  | _ => none

end DdlCatalog.Cli
