-- SUMMARY: The style sheet and the script that a report page carries.

/-!
# Style and script

A report page is one file: it carries its style sheet, and a script that shows the tabs and opens
what a link inside the page leads to.
-/
namespace SpecCoverage.Page

/-- The style sheet, line by line. -/
def styleLines : List String := [
  "body \x7b font-family: -apple-system, BlinkMacSystemFont, \"Segoe UI\", Roboto, sans-serif; margin: 0; padding: 24px; background: #f5f7fa; color: #212529; \x7d",
  "h1 \x7b margin-top: 0; \x7d",
  "h2 \x7b margin-top: 28px; border-bottom: 1px solid #dee2e6; padding-bottom: 4px; \x7d",
  "code, .path \x7b font-family: SFMono-Regular, Menlo, Consolas, monospace; font-size: 0.85em; color: #495057; \x7d",
  "a \x7b color: #0b61c9; \x7d",
  ".tab-buttons \x7b display: flex; flex-wrap: wrap; gap: 4px; border-bottom: 2px solid #dee2e6; \x7d",
  ".tab-button \x7b border: none; background: #e9ecef; padding: 10px 16px; cursor: pointer; border-radius: 6px 6px 0 0; font-size: 14px; \x7d",
  ".tab-button.active \x7b background: #0b61c9; color: #fff; \x7d",
  ".tab-content \x7b display: none; padding: 16px 0; \x7d",
  ".tab-content.active \x7b display: block; \x7d",
  "table \x7b border-collapse: collapse; background: #fff; width: 100%; margin-bottom: 16px; \x7d",
  "th, td \x7b border: 1px solid #dee2e6; padding: 6px 10px; text-align: left; vertical-align: top; \x7d",
  "th \x7b background: #343a40; color: #fff; position: sticky; top: 0; \x7d",
  "td.status \x7b text-align: center; white-space: nowrap; \x7d",
  "tr.folder-row td \x7b background: #e9ecef; font-weight: 600; letter-spacing: 0.05em; \x7d",
  ".status-pass \x7b color: #198754; font-weight: 600; \x7d",
  ".status-fail \x7b color: #dc3545; font-weight: 600; \x7d",
  ".status-todo \x7b color: #fd7e14; font-weight: 600; \x7d",
  ".status-na, .status-excluded \x7b color: #adb5bd; \x7d",
  ".xref-links \x7b font-size: 0.7em; margin-left: 2px; \x7d",
  ".xref-links a \x7b text-decoration: none; \x7d",
  ".summary-cards \x7b display: flex; flex-wrap: wrap; gap: 12px; margin: 16px 0; \x7d",
  ".summary-card \x7b background: #fff; border-radius: 8px; padding: 14px 18px; min-width: 140px; box-shadow: 0 1px 3px rgba(0, 0, 0, 0.1); \x7d",
  ".summary-card h3 \x7b margin: 0 0 6px 0; font-size: 15px; \x7d",
  ".summary-card .value \x7b font-size: 26px; font-weight: 700; \x7d",
  ".summary-card .detail \x7b font-size: 12px; color: #6c757d; \x7d",
  ".value.high \x7b color: #198754; \x7d",
  ".value.medium \x7b color: #fd7e14; \x7d",
  ".value.low \x7b color: #dc3545; \x7d",
  ".value.na \x7b color: #adb5bd; \x7d",
  "details \x7b background: #fff; border: 1px solid #dee2e6; border-radius: 6px; margin-bottom: 8px; padding: 6px 12px; \x7d",
  "details > summary \x7b cursor: pointer; font-weight: 600; padding: 4px 0; \x7d",
  "details.highlight \x7b outline: 3px solid #ffc107; \x7d",
  ".xref-id \x7b font-family: SFMono-Regular, Menlo, Consolas, monospace; background: #fff3cd; border-radius: 4px; padding: 1px 6px; margin-right: 6px; \x7d",
  ".test-level-e2e, .test-level-integration \x7b font-size: 11px; border-radius: 4px; padding: 1px 6px; margin-left: 6px; \x7d",
  ".test-level-e2e \x7b background: #d1e7dd; color: #0f5132; \x7d",
  ".test-level-integration \x7b background: #cfe2ff; color: #084298; \x7d",
  ".missing-list li \x7b margin-bottom: 4px; \x7d",
  ".scenario-list li \x7b margin-bottom: 2px; \x7d",
  ".tags \x7b font-size: 11px; color: #6c757d; margin-left: 6px; \x7d",
  ".legend \x7b font-size: 13px; color: #495057; margin-bottom: 8px; \x7d",
  ".legend span \x7b margin-right: 14px; \x7d",
  "footer \x7b text-align: center; color: #6c757d; margin-top: 30px; font-size: 13px; \x7d"]

/-- The script, line by line. -/
def scriptLines : List String := [
  "function showTab(id) \x7b",
  "  document.querySelectorAll('.tab-content').forEach(function (tab) \x7b",
  "    tab.classList.toggle('active', tab.id === id);",
  "  \x7d);",
  "  document.querySelectorAll('.tab-button').forEach(function (button) \x7b",
  "    button.classList.toggle('active', button.dataset.tab === id);",
  "  \x7d);",
  "\x7d",
  "",
  "function reveal(target) \x7b",
  "  var tab = target.closest('.tab-content');",
  "  if (tab) \x7b",
  "    showTab(tab.id);",
  "  \x7d",
  "  for (var node = target; node; node = node.parentElement) \x7b",
  "    if (node.tagName === 'DETAILS') \x7b",
  "      node.open = true;",
  "    \x7d",
  "  \x7d",
  "  target.scrollIntoView(\x7b behavior: 'smooth', block: 'center' \x7d);",
  "  if (target.tagName === 'DETAILS') \x7b",
  "    target.classList.add('highlight');",
  "    setTimeout(function () \x7b target.classList.remove('highlight'); \x7d, 2000);",
  "  \x7d",
  "\x7d",
  "",
  "document.addEventListener('click', function (event) \x7b",
  "  var button = event.target.closest('.tab-button');",
  "  if (button) \x7b",
  "    showTab(button.dataset.tab);",
  "    return;",
  "  \x7d",
  "  var link = event.target.closest('a[href^=\"#\"]');",
  "  if (link) \x7b",
  "    var target = document.getElementById(link.getAttribute('href').slice(1));",
  "    if (target) \x7b",
  "      event.preventDefault();",
  "      reveal(target);",
  "    \x7d",
  "  \x7d",
  "\x7d);"]

/-- Lines as text, each with its line feed. -/
def textOfLines (lines : List String) : String :=
  String.join (lines.map (· ++ "\n"))

def style : String := textOfLines styleLines

def script : String := textOfLines scriptLines

end SpecCoverage.Page
